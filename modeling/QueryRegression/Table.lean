import QueryRegression.Value

/-!
# Tables

What a query returns when it succeeds: named and typed columns with rows of values, or the number
of rows that it changed. A table is well formed if every column has a type and every row has a
value for every column.
-/

namespace QueryRegression

/-- A row of values. -/
abbrev Row := List Value

/-- The result of a query that succeeded. -/
structure Table where
  columnNames : List String
  columnTypes : List String
  rows : List Row
  /-- The number of rows that were changed, where that applies. -/
  updateCount : Option Nat
  /-- Elapsed time in milliseconds. -/
  executionTime : Nat

/-- How a table can be malformed. -/
inductive TableFault where
  | columnTypes (names types : Nat)
  /-- The row with the given number, counted from one, has the wrong number of values. -/
  | rowWidth (row values columns : Nat)
deriving DecidableEq

/-- The wording of a fault. -/
def TableFault.message : TableFault → String
  | .columnTypes names types => s!"{names} column names but {types} column types"
  | .rowWidth row values columns => s!"row {row} has {values} values, expected {columns}"

namespace Table

/-- The table of a statement that changed rows. -/
def update (count : Nat) : Table := ⟨[], [], [], some count, 0⟩

/-- The number of rows. -/
def rowCount (t : Table) : Nat := t.rows.length

/-- The number of columns. -/
def columnCount (t : Table) : Nat := t.columnNames.length

/-- Whether there is a row. -/
def hasRows (t : Table) : Bool := !t.rows.isEmpty

/-- Checks the rows from the one with the given number on. -/
def checkRows (columns number : Nat) : List Row → Except TableFault Unit
  | [] => .ok ()
  | row :: rest =>
    if row.length = columns then checkRows columns (number + 1) rest
    else .error (.rowWidth number row.length columns)

/-- Checks that the table is well formed. -/
def validate (t : Table) : Except TableFault Unit :=
  if t.columnNames.length = t.columnTypes.length then checkRows t.columnCount 1 t.rows
  else .error (.columnTypes t.columnNames.length t.columnTypes.length)

end Table
end QueryRegression
