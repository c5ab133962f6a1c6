import QueryRegression.Failure.Log
import QueryRegression.Json.Record

/-!
# Failures in JSON

Failures, logs and verdicts as JSON, and how they are read back.
-/

namespace QueryRegression

/-- The kinds of failures with their names. -/
def FailureKind.names : List (String × FailureKind) :=
  [("structure", .structural), ("row_count", .rowCount), ("update_count", .updateCount),
    ("cell", .cell), ("exception", .exception), ("unexpected_exception", .unexpectedException),
    ("missing_exception", .missingException), ("execution_time", .executionTime),
    ("framework", .framework), ("truncated", .truncated)]

/-- The name of a kind. -/
def FailureKind.name : FailureKind → String
  | .structural => "structure"
  | .rowCount => "row_count"
  | .updateCount => "update_count"
  | .cell => "cell"
  | .exception => "exception"
  | .unexpectedException => "unexpected_exception"
  | .missingException => "missing_exception"
  | .executionTime => "execution_time"
  | .framework => "framework"
  | .truncated => "truncated"

/-- The kind as JSON. -/
def FailureKind.toJson (kind : FailureKind) : Json := .string kind.name

/-- Reads a kind. -/
def FailureKind.ofJson? : Json → Option FailureKind := Json.plainChoice? names

namespace Mismatch

/-- The mismatch as JSON. -/
def toJson (m : Mismatch) : Json :=
  .record [("row", .nat m.row), ("column", .nat m.column),
    ("actual_original_row", .nat m.actualDeliveredRow),
    ("expected_original_row", .nat m.expectedDeliveredRow),
    ("expected_value", .string m.expectedValue), ("actual_value", .string m.actualValue)]

/-- Reads a mismatch. -/
def ofJson? (v : Json) : Option Mismatch := do
  match ← Json.fields? ["row", "column", "actual_original_row", "expected_original_row",
      "expected_value", "actual_value"] v with
  | [row, column, actualRow, expectedRow, expected, actual] =>
    return ⟨← row.required (Json.natBelow? 64), ← column.required (Json.natBelow? 64),
      ← actualRow.required (Json.natBelow? 64), ← expectedRow.required (Json.natBelow? 64),
      ← expected.required Json.string?, ← actual.required Json.string?⟩
  | _ => none

end Mismatch

namespace Failure

/-- The failure as JSON. -/
def toJson (f : Failure) : Json :=
  .record [("kind", f.kind.toJson), ("message", .string f.message),
    ("mismatch", .ofOption Mismatch.toJson f.mismatch)]

/-- Reads a failure. -/
def ofJson? (v : Json) : Option Failure := do
  match ← Json.fields? ["kind", "message", "mismatch"] v with
  | [kind, message, mismatch] =>
    return ⟨← kind.required FailureKind.ofJson?, ← message.required Json.string?,
      ← mismatch.optional Mismatch.ofJson?⟩
  | _ => none

end Failure

namespace FailureLog

/-- The log as JSON. -/
def toJson (log : FailureLog) : Json :=
  .record [("failures", .ofList Failure.toJson log.stored.toList),
    ("total_failures", .nat log.total)]

/-- Reads a log, as it was stored. -/
def ofJson? (v : Json) : Option FailureLog := do
  match ← Json.fields? ["failures", "total_failures"] v with
  | [failures, total] =>
    let stored ← failures.required (Json.list? Failure.ofJson?)
    return ⟨stored.toArray, ← total.required (Json.natBelow? 64)⟩
  | _ => none

end FailureLog

namespace Verdict

/-- The verdict as JSON. -/
def toJson : Verdict → Json
  | .pass => .string "Pass"
  | .failed failure => .record [("Failed", failure.toJson)]
  | .multiFailed log => .record [("MultiFailed", log.toJson)]

/-- Reads a verdict. -/
def ofJson? (v : Json) : Option Verdict := do
  match ← Json.choice? v with
  | ("Pass", none) | ("Pass", some .null) => return .pass
  | ("Failed", some data) => return .failed (← Failure.ofJson? data)
  | ("MultiFailed", some data) => return .multiFailed (← FailureLog.ofJson? data)
  | _ => none

end Verdict
end QueryRegression
