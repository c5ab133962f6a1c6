/-!
# Failures

What a comparison can find wrong with one test.
-/

namespace QueryRegression

/-- The categories of failures. -/
inductive FailureKind where
  /-- The columns differ in number, name or type. -/
  | structural
  | rowCount
  | updateCount
  /-- The values of one cell differ. -/
  | cell
  /-- Another exception was expected. -/
  | exception
  | unexpectedException
  | missingException
  | executionTime
  /-- The test could not be run or compared. -/
  | framework
  /-- Stands for failures that were counted only. -/
  | truncated
deriving DecidableEq

/-- The place and the values of one cell that differs. Numbers are counted from one; `row` is the
place in the order of comparison, the delivered rows are places in the results as delivered. -/
structure Mismatch where
  row : Nat
  column : Nat
  actualDeliveredRow : Nat
  expectedDeliveredRow : Nat
  expectedValue : String
  actualValue : String
deriving DecidableEq

/-- One failure with its message. -/
structure Failure where
  kind : FailureKind
  message : String
  mismatch : Option Mismatch
deriving DecidableEq

/-- A failure that concerns no single cell. -/
def Failure.general (kind : FailureKind) (message : String) : Failure := ⟨kind, message, none⟩

/-- A failure of one cell. -/
def Failure.ofMismatch (mismatch : Mismatch) (message : String) : Failure :=
  ⟨.cell, message, some mismatch⟩

end QueryRegression
