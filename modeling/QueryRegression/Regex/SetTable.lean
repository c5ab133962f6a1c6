import QueryRegression.Text.CharSet

/-!
# Tables of sets

How sets of characters are written down in tables. A line lists numbers and ranges of code points;
in `a-b/s` every number stands that is `s` after the one before it. A table has sets under their
names, or recipes that make sets of others.
-/

namespace QueryRegression.Regex

open Text

/-- The value of a hexadecimal number in capital letters. -/
def hexNumber (cs : List Char) : Nat :=
  cs.foldl (fun n c => 16 * n + (if c.isDigit then c.toNat - 48 else c.toNat - 55)) 0

/-- The numbers from `first` to `last` in equal steps, as ranges. -/
def stepped (first last step : Nat) : List (Nat × Nat) :=
  (List.range ((last - first) / step + 1)).map fun k => (first + step * k, first + step * k)

/-- One item of a table. -/
def tableItem (item : List Char) : List (Nat × Nat) :=
  let first := hexNumber (item.takeWhile (· ≠ '-'))
  match item.dropWhile (· ≠ '-') with
  | [] => [(first, first)]
  | _ :: rest =>
    let last := hexNumber (rest.takeWhile (· ≠ '/'))
    match rest.dropWhile (· ≠ '/') with
    | [] => [(first, last)]
    | _ :: step => stepped first last (hexNumber step)

/-- The items of a line, separated by blanks. -/
def tableItems (item : List Char) : List Char → List (List Char)
  | [] => if item.isEmpty then [] else [item.reverse]
  | c :: rest =>
    if c = ' ' then item.reverse :: tableItems [] rest else tableItems (c :: item) rest

/-- The set that the lines of a table describe. -/
def tableSet (lines : List String) : CharSet :=
  ⟨lines.flatMap fun line => (tableItems [] line.toList).flatMap tableItem⟩

/-- The set that stands under a name in a table. -/
def tableEntry? (table : List (List String × List String)) (name : String) : Option CharSet :=
  (table.find? (·.1.contains name)).map fun entry => tableSet entry.2

/-- How a set is made of others. -/
structure Recipe where
  names : List String
  /-- Lines of members. -/
  members : List String := []
  /-- The names of sets of which it has all members. -/
  added : List String := []
  /-- The names of sets of which it has no member. -/
  removed : List String := []
  /-- Lines of code points that are no members. -/
  lacking : List String := []

/-- The set that a recipe makes of those that `find` gives. -/
def Recipe.set (r : Recipe) (find : String → Option CharSet) : CharSet :=
  let gather (names lines : List String) : CharSet :=
    (names.filterMap find).foldl .union (tableSet lines)
  (gather r.added r.members).diff (gather r.removed r.lacking)

/-- The set under a name that recipes make of those after them and of those that `find` gives. -/
def madeSet? (find : String → Option CharSet) : List Recipe → String → Option CharSet
  | [], name => find name
  | r :: rest, name =>
    if r.names.contains name then some (r.set (madeSet? find rest)) else madeSet? find rest name

end QueryRegression.Regex
