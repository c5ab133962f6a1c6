import QueryRegression.Json.Printer
import QueryRegression.Run.Report
import QueryRegression.Run.Scenario
import QueryRegression.Test.Json

/-!
# Scenarios and reports in JSON

Scenarios, summaries and abort reasons as JSON, and how they are read back. Reports are only
written.
-/

namespace QueryRegression

/-! ## Scenarios -/

namespace QuerySet

/-- The query set as JSON. -/
def toJson (s : QuerySet) : Json :=
  .record [("id", .string s.name), ("tests", .ofList QueryTest.toJson s.tests)]

/-- Reads a query set. -/
def ofJson? (v : Json) : Option QuerySet := do
  match ← Json.fields? ["id", "tests"] v with
  | [name, tests] =>
    return ⟨← name.required Json.string?, ← tests.required (Json.list? QueryTest.ofJson?)⟩
  | _ => none

end QuerySet

namespace Scenario

/-- The scenario as JSON. -/
def toJson (s : Scenario) : Json :=
  .record [("name", .string s.name), ("query_sets", .ofList QuerySet.toJson s.querySets)]

/-- Reads a scenario. -/
def ofJson? (v : Json) : Option Scenario := do
  match ← Json.fields? ["name", "query_sets"] v with
  | [name, querySets] =>
    return ⟨← name.required Json.string?, ← querySets.required (Json.list? QuerySet.ofJson?)⟩
  | _ => none

end Scenario

/-! ## Summaries -/

namespace SetSummary

/-- The summary as JSON. -/
def toJson (s : SetSummary) : Json :=
  .record [("query_set_id", .string s.querySet), ("total", .nat s.total), ("passed", .nat s.passed),
    ("failed", .nat s.failed), ("expected_exceptions", .nat s.expectedExceptions),
    ("time_exceeded", .nat s.timeExceeded), ("elapsed_ms", .nat s.elapsed),
    ("failed_queries", .ofList .string s.failedQueries)]

/-- Reads a summary. -/
def ofJson? (v : Json) : Option SetSummary := do
  match ← Json.fields? ["query_set_id", "total", "passed", "failed", "expected_exceptions",
      "time_exceeded", "elapsed_ms", "failed_queries"] v with
  | [querySet, total, passed, failed, expectedExceptions, timeExceeded, elapsed, failedQueries] =>
    return ⟨← querySet.required Json.string?, ← total.required (Json.natBelow? 64),
      ← passed.required (Json.natBelow? 64), ← failed.required (Json.natBelow? 64),
      ← expectedExceptions.required (Json.natBelow? 64),
      ← timeExceeded.required (Json.natBelow? 64), ← elapsed.required (Json.natBelow? 64),
      ← failedQueries.required (Json.list? Json.string?)⟩
  | _ => none

end SetSummary

namespace Summary

/-- The summary as JSON. -/
def toJson (s : Summary) : Json :=
  .record [("scenario_name", .string s.scenario),
    ("query_sets", .ofList SetSummary.toJson s.sets)]

/-- Reads a summary. -/
def ofJson? (v : Json) : Option Summary := do
  match ← Json.fields? ["scenario_name", "query_sets"] v with
  | [scenario, sets] =>
    return ⟨← scenario.required Json.string?, ← sets.required (Json.list? SetSummary.ofJson?)⟩
  | _ => none

end Summary

/-! ## Reports -/

/-- The name of a kind. -/
def AbortKind.name : AbortKind → String
  | .timeBudgetExceeded => "time_budget_exceeded"
  | .interrupted => "interrupted"
  | .connection => "connection"

/-- The kinds by name. -/
def AbortKind.names : List (String × AbortKind) :=
  [("time_budget_exceeded", .timeBudgetExceeded), ("interrupted", .interrupted),
    ("connection", .connection)]

namespace AbortReason

/-- The reason as JSON. -/
def toJson (r : AbortReason) : Json :=
  .record [("kind", .string r.kind.name), ("message", .string r.message)]

/-- Reads a reason. -/
def ofJson? (v : Json) : Option AbortReason := do
  match ← Json.fields? ["kind", "message"] v with
  | [kind, message] =>
    return ⟨← kind.required (Json.plainChoice? AbortKind.names),
      ← message.required Json.string?⟩
  | _ => none

end AbortReason

namespace ScenarioReport

/-- The report as JSON. -/
def toJson (r : ScenarioReport) : Json :=
  .record [("scenario_name", .string r.scenario), ("planned_queries", .nat r.planned),
    ("summary", r.summary.toJson), ("results", .ofList TestResult.toJson r.results),
    ("abort_reason", .ofOption AbortReason.toJson r.abort), ("started_at", r.started.toJson),
    ("finished_at", r.finished.toJson)]

/-- The report as a JSON text on several lines. -/
def render (r : ScenarioReport) : String := r.toJson.pretty

end ScenarioReport
end QueryRegression
