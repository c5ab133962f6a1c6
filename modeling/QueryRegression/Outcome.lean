import QueryRegression.Table

/-!
# Outcomes

A query ends in a table or in an exception that the engine raised for it.
-/

namespace QueryRegression

/-- How the message of an expected exception is matched. -/
inductive MessageMatch where
  | exact
  | contains
  | startsWith
  | regex
deriving DecidableEq

/-- An exception that was raised, or is expected to be. -/
structure RaisedException where
  className : Option String
  message : String
  /-- How the message is matched; it counts on the expected side only. -/
  messageMatch : MessageMatch
  /-- Elapsed time in milliseconds. -/
  executionTime : Nat
deriving DecidableEq

/-- The outcome of a query. -/
inductive Outcome where
  | table (t : Table)
  | exception (e : RaisedException)

namespace Outcome

/-- Elapsed time in milliseconds. -/
def executionTime : Outcome → Nat
  | .table t => t.executionTime
  | .exception e => e.executionTime

/-- Whether the query ended in an exception. -/
def isException : Outcome → Bool
  | .table _ => false
  | .exception _ => true

/-- The number of rows; none for an exception. -/
def rowCount : Outcome → Nat
  | .table t => t.rowCount
  | .exception _ => 0

end Outcome
end QueryRegression
