import QueryRegression.Comparison
import QueryRegression.Failure.Json

/-!
# Comparisons in JSON

What a comparison found, as JSON, and how it is read back.
-/

namespace QueryRegression.Comparison

/-- The comparison as JSON. -/
def toJson (c : Comparison) : Json :=
  .record [("verdict", c.verdict.toJson),
    ("execution_time_exceeded", .ofOption Failure.toJson c.timeExceeded)]

/-- Reads a comparison. -/
def ofJson? (v : Json) : Option Comparison := do
  match ← Json.fields? ["verdict", "execution_time_exceeded"] v with
  | [verdict, timeExceeded] =>
    return ⟨← verdict.required Verdict.ofJson?, ← timeExceeded.optional Failure.ofJson?⟩
  | _ => none

end QueryRegression.Comparison
