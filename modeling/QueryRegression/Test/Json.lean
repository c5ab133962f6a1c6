import QueryRegression.Failure.Json
import QueryRegression.Test.Result

/-!
# Tests and their results in JSON

Tests, statements, modes and states as JSON, and how they are read back. Results are only written;
the outcome itself is no part of what is written.
-/

namespace QueryRegression

/-! ## Names -/

/-- The mode as JSON. -/
def ResultMode.toJson (mode : ResultMode) : Json := .string mode.name

/-- Reads a mode. -/
def ResultMode.ofJson? : Json → Option ResultMode := Json.plainChoice? names

/-- The way to match messages as JSON. -/
def MessageMatch.toJson (m : MessageMatch) : Json := .string m.name

/-- Reads a way to match messages. -/
def MessageMatch.ofJson? : Json → Option MessageMatch := Json.plainChoice? names

/-- The name of a state. -/
def TestStatus.name : TestStatus → String
  | .preRun => "pre_run"
  | .success => "success"
  | .exception => "exception"
  | .expectedException => "expected_exception"
  | .timeExceeded => "execution_time_exceeded"

/-- The states by name. -/
def TestStatus.names : List (String × TestStatus) :=
  [("pre_run", .preRun), ("success", .success), ("exception", .exception),
    ("expected_exception", .expectedException), ("execution_time_exceeded", .timeExceeded)]

/-- The state as JSON. -/
def TestStatus.toJson (status : TestStatus) : Json := .string status.name

/-- Reads a state. -/
def TestStatus.ofJson? : Json → Option TestStatus := Json.plainChoice? names

/-! ## Tests -/

namespace Statement

/-- The statement as JSON. -/
def toJson (s : Statement) : Json :=
  .record [("sql", .string s.sql), ("run_times", .nat s.runTimes),
    ("row_count", .ofOption .nat s.rowCount), ("update_count", .ofOption .nat s.updateCount)]

/-- Reads a statement, of which only the text must be there. -/
def ofJson? (v : Json) : Option Statement := do
  match ← Json.fields? ["sql", "run_times", "row_count", "update_count"] v with
  | [sql, runTimes, rowCount, updateCount] =>
    return ⟨← sql.required Json.string?, ← runTimes.withDefault 1 (Json.natBelow? 32),
      ← rowCount.withDefault none (Json.optional? (Json.natBelow? 64)),
      ← updateCount.withDefault none (Json.optional? (Json.natBelow? 64))⟩
  | _ => none

end Statement

namespace QueryTest

/-- The test as JSON. -/
def toJson (t : QueryTest) : Json :=
  .record [("query_set_id", .string t.querySet), ("query_id", .string t.query),
    ("statements", .ofList Statement.toJson t.statements)]

/-- Reads a test. -/
def ofJson? (v : Json) : Option QueryTest := do
  match ← Json.fields? ["query_set_id", "query_id", "statements"] v with
  | [querySet, query, statements] =>
    return ⟨← querySet.required Json.string?, ← query.required Json.string?,
      ← statements.required (Json.list? Statement.ofJson?)⟩
  | _ => none

end QueryTest

/-- The instant as JSON. -/
def Instant.toJson (t : Instant) : Json := .string t.toText

/-- The result as JSON. -/
def TestResult.toJson (r : TestResult) : Json :=
  .record [("test_id", .string r.testId), ("query_set_id", .string r.querySet),
    ("query_id", .string r.query), ("query", .string r.sql), ("result_mode", r.mode.toJson),
    ("status", r.status.toJson), ("failure_message", .ofOption .string r.failureMessage),
    ("failures", .ofList Failure.toJson r.failures),
    ("time_exceeded", .ofOption .string r.timeExceeded),
    ("execution_time_ms", .nat r.executionTime), ("begin_time", r.begun.toJson),
    ("end_time", .ofOption Instant.toJson r.ended)]

end QueryRegression
