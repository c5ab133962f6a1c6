import QueryRegression.Compare.Excerpt
import QueryRegression.Compare.Normal
import QueryRegression.Compare.Tolerance
import QueryRegression.Failure
import QueryRegression.Policy

/-!
# Comparison of cells

One actual value is compared with the value expected in its place. Two nulls match, and null
matches nothing else. Other values are brought into comparable form and match if they are numbers
within the allowed divergence, equal values, or equal texts, where a date or a time counts as its
text.
-/

namespace QueryRegression

/-- The place of a cell; all numbers are counted from one. -/
structure CellPosition where
  /-- The row in the order of comparison. -/
  row : Nat
  column : Nat
  /-- The row in the actual result as delivered. -/
  actualDeliveredRow : Nat
  /-- The row in the expected result as delivered. -/
  expectedDeliveredRow : Nat
deriving DecidableEq

namespace CellPosition

/-- The words for a place. -/
def toText (p : CellPosition) : String :=
  s!"at row {p.row} and column {p.column} (row in actual result: {p.actualDeliveredRow}, " ++
    s!"row in expected result: {p.expectedDeliveredRow})"

/-- The failure of the cell at a place. -/
def failure (p : CellPosition) (expected actual : Value) (message : String) : Failure :=
  .ofMismatch
    ⟨p.row, p.column, p.actualDeliveredRow, p.expectedDeliveredRow, expected.toText, actual.toText⟩
    message

/-- Two values differ. -/
def valueFailure (p : CellPosition) (expected actual : Value) (note : String) : Failure :=
  p.failure expected actual
    ("Value mismatch " ++ p.toText ++ ": expected = [" ++ expected.toText ++ "], actual = [" ++
      actual.toText ++ "]" ++ note)

/-- A value is no text where a text is expected. -/
def typeFailure (p : CellPosition) (expected actual : Value) : Failure :=
  p.failure expected actual
    ("Value (types) mismatch " ++ p.toText ++ ": expected = [" ++ expected.toText ++ ", (" ++
      expected.typeName ++ ") ], actual = [" ++ actual.toText ++ ", (" ++ actual.typeName ++ ") ]")

/-- Two texts differ. -/
def textFailure (p : CellPosition) (expected actual : Value) (m : TextMismatch) : Failure :=
  p.failure expected actual ("String mismatch " ++ p.toText ++ ". " ++ m.describe)

/-- What is said about numbers outside the divergence. -/
def divergenceNote (divergence : Decimal) : String :=
  " \x7ballowed divergence: " ++ divergence.toText ++ "\x7d"

/-- Compares two values of which neither matches as a number or as an equal value. -/
def compareTexts (p : CellPosition) (expected actual : Value) : Option Failure :=
  match expected.text?, actual.text? with
  | none, _ => some (p.valueFailure expected actual "")
  | some _, none => some (p.typeFailure expected actual)
  | some e, some a => (TextMismatch.find? e a).map (p.textFailure expected actual)

/-- Compares two values in comparable form. -/
def compareNormal (policy : Policy) (p : CellPosition) (actual expected : Value) : Option Failure :=
  match NumericMatch.ofValues policy.allowedDivergence expected actual with
  | .within => none
  | .outside => some (p.valueFailure expected actual (divergenceNote policy.allowedDivergence))
  | .notApplicable =>
    if actual.same expected then none
    else if actual.isDateTime || expected.isDateTime then
      p.compareTexts (.text expected.toText) (.text actual.toText)
    else p.compareTexts expected actual

/-- Compares the actual with the expected value at a place. Only a large object that cannot be
read is an error. -/
def compareCell (policy : Policy) (p : CellPosition) (actual expected : Value) :
    Except LargeObjectFault (Option Failure) :=
  match actual.isNull, expected.isNull with
  | true, true => .ok none
  | false, false => do
    let (actual, expected) ← Value.normalize actual expected
    return compareNormal policy p actual expected
  | _, _ => .ok (some (p.valueFailure expected actual ""))

end CellPosition
end QueryRegression
