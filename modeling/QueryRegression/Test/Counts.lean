import QueryRegression.Comparison
import QueryRegression.Test

/-!
# Declared counts

A statement may declare how many rows it returns or how many it changes. Only one of the two is
checked: the number of rows, if it is declared.
-/

namespace QueryRegression.Statement

/-- The complaint about a number of rows. -/
def rowCountFailure (expected actual : Nat) : Failure :=
  .general .rowCount s!"Expected row count: {expected}, actual row count: {actual}."

/-- Checks the table of a statement against the counts that it declares. -/
def checkTable (s : Statement) (t : Table) : Option Failure :=
  match s.rowCount, s.updateCount with
  | some expected, _ =>
    if t.rowCount = expected then none else some (rowCountFailure expected t.rowCount)
  | none, some expected =>
    if t.updateCount = some expected then none
    else some (Policy.updateCountFailure expected t.updateCount)
  | none, none => none

/-- Checks an outcome of a statement against the counts that it declares. An exception has no
counts. -/
def checkCounts (s : Statement) : Outcome → Option Failure
  | .table t => s.checkTable t
  | .exception _ => none

end QueryRegression.Statement
