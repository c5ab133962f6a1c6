import QueryRegression.Compare.Cell
import QueryRegression.Compare.Columns
import QueryRegression.Compare.RowOrder
import QueryRegression.Failure.Log

/-!
# Comparison of tables

Tables with different columns or different numbers of rows are reported by one failure. Otherwise
every cell is compared, row by row, and all failures are collected.
-/

namespace QueryRegression

/-- Two cells that face each other. -/
structure CellPair where
  position : CellPosition
  actual : Value
  expected : Value

namespace Table

/-- Compares numbers of rows. -/
def compareRowCounts (actual expected : Nat) : Option Failure :=
  if actual < expected then
    some (.general .rowCount s!"Expected {expected} records but received only {actual}")
  else if expected < actual then
    some (.general .rowCount s!"Expected {expected} records but received {actual}")
  else none

/-- The cells of two rows that face each other in the given row of the comparison. -/
def rowPairs (row : Nat) (actual expected : IndexedRow) : List CellPair :=
  (actual.values.zip expected.values).zipIdx.map fun ((a, e), column) =>
    ⟨⟨row, column + 1, actual.index + 1, expected.index + 1⟩, a, e⟩

/-- The cells of two results that face each other, row by row. -/
def cellPairs (actual expected : List IndexedRow) : List CellPair :=
  (actual.zip expected).zipIdx.flatMap fun ((a, e), row) => rowPairs (row + 1) a e

/-- Compares cells and adds their failures to a log, up to the first large object that cannot be
read. -/
def compareCells (policy : Policy) (log : FailureLog) : List CellPair → Except Error FailureLog
  | [] => .ok log
  | pair :: rest =>
    match pair.position.compareCell policy pair.actual pair.expected with
    | .error fault => .error (.largeObject fault)
    | .ok none => compareCells policy log rest
    | .ok (some failure) => compareCells policy (log.add failure) rest

/-- Compares two tables whose rows are given in the order of comparison. -/
def compareGrid (policy : Policy) (actual : Table) (actualRows : List IndexedRow)
    (expected : Table) (expectedRows : List IndexedRow) : Except Error Verdict :=
  match compareColumns actual expected with
  | some failure => .ok (.failed failure)
  | none =>
    match compareRowCounts actualRows.length expectedRows.length with
    | some failure => .ok (.failed failure)
    | none => do
      let log ← compareCells policy .empty (cellPairs actualRows expectedRows)
      return log.verdict

end Table
end QueryRegression
