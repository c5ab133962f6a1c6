import QueryRegression.Failure

/-!
# Failure logs and verdicts

A log collects the failures of one comparison. It stores the first of them up to a limit and
counts all; where some were counted only, the last one shown says how many. A verdict is a pass,
one failure, or a log of several.
-/

namespace QueryRegression

/-- Failures in the order in which they were found. -/
structure FailureLog where
  stored : Array Failure
  total : Nat
deriving DecidableEq

namespace FailureLog

/-- The greatest number of failures that are stored. -/
def limit : Nat := 2000

/-- The log of no failure. -/
def empty : FailureLog := ⟨#[], 0⟩

/-- The log with one more failure. -/
def add (log : FailureLog) (failure : Failure) : FailureLog :=
  ⟨if log.stored.size < limit then log.stored.push failure else log.stored, log.total + 1⟩

/-- The log of a list of failures. -/
def ofList (failures : List Failure) : FailureLog := failures.foldl add empty

/-- Whether no failure was found. -/
def isEmpty (log : FailureLog) : Bool := log.total == 0

/-- The words for failures that are not shown. -/
def moreFailures (count : Nat) : String := s!"(+{count} more failures)"

/-- The failures that are shown: those stored, where the last gives way to a placeholder if more
than the limit were found. -/
def failures (log : FailureLog) : List Failure :=
  if limit < log.total ∧ ¬log.stored.isEmpty then
    log.stored.pop.toList ++ [.general .truncated (moreFailures (log.total - limit))]
  else log.stored.toList

/-- The first message and the number of further failures. -/
def message (log : FailureLog) : String :=
  match log.stored[0]? with
  | some first => first.message ++ " " ++ moreFailures (log.total - 1)
  | none => "No failures"

end FailureLog

/-- What a comparison found. -/
inductive Verdict where
  | pass
  | failed (failure : Failure)
  | multiFailed (log : FailureLog)
deriving DecidableEq

/-- The verdict of a log: nothing is a pass, and one failure stands alone. -/
def FailureLog.verdict (log : FailureLog) : Verdict :=
  match log.total with
  | 0 => .pass
  | 1 =>
    match log.stored.back? with
    | some failure => .failed failure
    | none => .pass
  | _ => .multiFailed log

namespace Verdict

/-- Whether nothing was wrong. -/
def isPass : Verdict → Bool
  | .pass => true
  | _ => false

/-- The number of failures, stored or not. -/
def totalFailures : Verdict → Nat
  | .pass => 0
  | .failed _ => 1
  | .multiFailed log => log.total

/-- The message of a verdict that is no pass. -/
def message? : Verdict → Option String
  | .pass => none
  | .failed failure => some failure.message
  | .multiFailed log => some log.message

/-- The failures that are shown. -/
def failures : Verdict → List Failure
  | .pass => []
  | .failed failure => [failure]
  | .multiFailed log => log.failures

end Verdict
end QueryRegression
