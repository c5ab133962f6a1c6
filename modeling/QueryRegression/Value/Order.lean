import QueryRegression.Number.Decimal.Binary
import QueryRegression.Value.Text

/-!
# The order of values

The order in which rows of an unordered result are brought before they are compared. Kinds follow
one another: null, booleans, numbers, text, dates and times, bytes, large objects. Within a kind,
values of one type have their natural order; whole numbers of different widths compare as
integers, other numbers as doubles in the total order of bit patterns, and what is left by its
text. Large objects are not read and are all equal.
-/

namespace QueryRegression.Value

/-- The place of a value's kind. -/
def kindRank : Value → Nat
  | .null => 0
  | .boolean _ => 1
  | .tinyInt _ | .smallInt _ | .integer _ | .bigInt _ | .float _ | .double _ | .decimal _ => 2
  | .text _ => 3
  | .date _ | .time _ | .timestamp _ => 4
  | .bytes _ | .boxedBytes _ => 5
  | .largeObject _ _ => 6

/-- The value of a whole number. -/
def whole? : Value → Option Int
  | .tinyInt v => some v.toInt
  | .smallInt v => some v.toInt
  | .integer v => some v.toInt
  | .bigInt v => some v.toInt
  | _ => none

/-- The double that a number is compared as. -/
def approximate? : Value → Option Binary64
  | .float v => some v.convert
  | .double v => some v
  | .decimal v => some v.toBinary64
  | v => v.whole?.map Binary.ofInt

/-- Comparison of values of one kind that need not be of one type. -/
def mixedCompare (a b : Value) : Ordering :=
  match a.whole?, b.whole? with
  | some x, some y => compare x y
  | _, _ =>
    match a.approximate?, b.approximate? with
    | some x, some y => x.totalCompare y
    | _, _ => compare a.toText b.toText

/-- Comparison of values of one kind. -/
def kindCompare : Value → Value → Ordering
  | .null, .null => .eq
  | .boolean a, .boolean b => compare a b
  | .decimal a, .decimal b => a.compare b
  | .text a, .text b => compare a b
  | .date a, .date b => a.compare b
  | .time a, .time b => a.compare b
  | .timestamp a, .timestamp b => a.compare b
  | .bytes a, .bytes b => compare a b
  | .boxedBytes a, .boxedBytes b => compare a b
  | .largeObject _ _, .largeObject _ _ => .eq
  | a, b => mixedCompare a b

/-- Comparison in the order of values. -/
def sortCompare (a b : Value) : Ordering := (compare a.kindRank b.kindRank).then (kindCompare a b)

end QueryRegression.Value
