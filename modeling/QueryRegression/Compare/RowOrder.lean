import QueryRegression.Sorting.Stable
import QueryRegression.Table
import QueryRegression.Value.Order

/-!
# The order of rows

Where a query does not fix the order of its rows, the rows of both results are sorted by their
first columns before they are compared. Rows keep the index at which they were delivered, and
rows with equal keys keep their order. Values of different kinds in one column need not be in a
consistent order; then the sort may break off, and there are no rows to compare.
-/

namespace QueryRegression

/-- A row with the index at which it was delivered. -/
structure IndexedRow where
  index : Nat
  values : Row

namespace IndexedRow

/-- The greatest number of leading columns that are compared for sorting. -/
def keyColumns : Nat := 3

/-- Rows with their indexes. -/
def ofRows (rows : List Row) : List IndexedRow := rows.zipIdx.map fun (row, index) => ⟨index, row⟩

/-- Comparison of at most `width` leading values, from the first on. -/
def compareKeys : Nat → Row → Row → Ordering
  | width + 1, a :: as, b :: bs => (a.sortCompare b).then (compareKeys width as bs)
  | _, _, _ => .eq

/-- The number of columns that rows are sorted by: those of the first row up to the limit. -/
def keyWidth (rows : List IndexedRow) : Nat :=
  match rows with
  | [] => 0
  | row :: _ => min row.values.length keyColumns

/-- Rows in the order of their keys, if the sort ends. -/
def sort? (rows : List IndexedRow) : Option (List IndexedRow) :=
  let width := keyWidth rows
  if width = 0 then some rows
  else Sorting.stableSort? (fun a b => compareKeys width a.values b.values) rows

/-- The rows of two results in the order in which they are compared: as delivered if the query is
ordered or one result is empty, else sorted. -/
def orderIfNeeded? (actual expected : List Row) (isOrdered : Bool) :
    Option (List IndexedRow × List IndexedRow) :=
  if isOrdered || actual.isEmpty || expected.isEmpty then some (ofRows actual, ofRows expected)
  else do return (← sort? (ofRows actual), ← sort? (ofRows expected))

end IndexedRow
end QueryRegression
