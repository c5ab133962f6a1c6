import QueryRegression.Calendar.Instant
import QueryRegression.Comparison
import QueryRegression.Test
import QueryRegression.Test.Mode

/-!
# Results of tests

A result is filled while its test runs: outcomes are recorded as they come, a failure replaces
what was found before, and a comparison decides in the end.
-/

namespace QueryRegression

/-- The state of a test. -/
inductive TestStatus where
  /-- Nothing has been run yet. -/
  | preRun
  | success
  /-- An unexpected exception or a mismatch. -/
  | exception
  /-- The exception that was expected. -/
  | expectedException
  /-- The right outcome, but too late. -/
  | timeExceeded
deriving DecidableEq

namespace TestStatus

/-- The words for a status. -/
def toText : TestStatus → String
  | .preRun => "pre-run"
  | .success => "pass"
  | .exception => "fail"
  | .expectedException => "expected exception"
  | .timeExceeded => "execution time exceeded"

/-- Whether a test with this status has passed. -/
def isSuccess : TestStatus → Bool
  | .success | .expectedException => true
  | _ => false

end TestStatus

/-- The result of a test. -/
structure TestResult where
  /-- The identifier of this run of the test. -/
  testId : String
  querySet : String
  query : String
  /-- The statement that ran last; before that, all of them. -/
  sql : String
  mode : ResultMode
  status : TestStatus
  /-- The last outcome, unless the statement could not be run. -/
  outcome : Option Outcome
  failureMessage : Option String
  failures : List Failure
  /-- The complaint about the time of the query. -/
  timeExceeded : Option String
  /-- Elapsed time of the last outcome in milliseconds. -/
  executionTime : Nat
  begun : Instant
  ended : Option Instant

namespace TestResult

/-- The result of a test about to run. -/
def fresh (testId : String) (begun : Instant) (test : QueryTest) (mode : ResultMode) : TestResult :=
  ⟨testId, test.querySet, test.query, test.sqlText, mode, .preRun, none, none, [], none, 0, begun,
    none⟩

/-- The result after an outcome. -/
def record (r : TestResult) (outcome : Outcome) : TestResult :=
  match outcome with
  | .table t =>
    { r with status := .success, outcome := some outcome, executionTime := t.executionTime }
  | .exception e =>
    { r with
      status := .exception
      outcome := some outcome
      failureMessage := some e.message
      executionTime := e.executionTime }

/-- The result after a failure, which takes the place of all before. -/
def fail (r : TestResult) (failure : Failure) : TestResult :=
  { r with
    status := .exception
    failureMessage := some failure.message
    failures := [failure] }

/-- The result after a comparison, its time left aside. -/
def applyVerdict (r : TestResult) (c : Comparison) : TestResult :=
  match c.verdict with
  | .pass =>
    { r with
      status :=
        if c.timeExceeded.isSome then .timeExceeded
        else if r.outcome.any Outcome.isException then .expectedException
        else .success
      failureMessage := none
      failures := [] }
  | verdict =>
    { r with
      status := .exception
      failureMessage := verdict.message?
      failures := verdict.failures }

/-- The result after a comparison. A complaint about the time is the message of the test unless it
failed for another reason. -/
def applyComparison (r : TestResult) (c : Comparison) : TestResult :=
  let r := r.applyVerdict c
  match c.timeExceeded with
  | none => r
  | some excess =>
    { r with
      timeExceeded := some excess.message
      failureMessage := some (r.failureMessage.getD excess.message) }

/-- The result at the end of its test. -/
def finish (r : TestResult) (ended : Instant) : TestResult := { r with ended := some ended }

/-- Whether the test has passed. -/
def isSuccess (r : TestResult) : Bool := r.status.isSuccess

end TestResult
end QueryRegression
