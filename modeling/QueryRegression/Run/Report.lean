import QueryRegression.Run.Summary

/-!
# Reports

What a run of a scenario produces: the results of the tests that ran, their summary, and why the
run stopped, if it did before the last test.
-/

namespace QueryRegression

/-- What can stop a run. -/
inductive AbortKind where
  | timeBudgetExceeded
  | interrupted
  | connection
deriving DecidableEq

/-- Why a run stopped. -/
structure AbortReason where
  kind : AbortKind
  message : String
deriving DecidableEq

/-- The report of a run. -/
structure ScenarioReport where
  scenario : String
  planned : Nat
  summary : Summary
  results : List TestResult
  abort : Option AbortReason
  started : Instant
  finished : Instant

namespace ScenarioReport

/-- Whether every planned test ran and passed. -/
def isSuccess (r : ScenarioReport) : Bool :=
  r.abort.isNone && r.results.length == r.planned && r.results.all TestResult.isSuccess

/-- The results that did not pass. -/
def failedResults (r : ScenarioReport) : List TestResult := r.results.filter (!·.isSuccess)

end ScenarioReport
end QueryRegression
