import QueryRegression.Json.Record
import QueryRegression.Policy.Settings

/-!
# Settings in JSON

Settings as JSON, where those that are missing are null, and how they are read back. A setting may
be left out.
-/

namespace QueryRegression.Settings

/-- The names of the settings, in their order. -/
def names : List String :=
  ["allowed_divergence", "execute_exceed_percent", "execute_time_minimum", "time_for_one_query_ms",
    "result_mode"]

/-- The settings as JSON. -/
def toJson (s : Settings) : Json :=
  .record [("allowed_divergence", .ofOption .string s.allowedDivergence),
    ("execute_exceed_percent", .ofOption .string s.exceedPercent),
    ("execute_time_minimum", .ofOption .string s.minimumTime),
    ("time_for_one_query_ms", .ofOption .nat s.timeForOneQuery),
    ("result_mode", .ofOption .string s.resultMode)]

/-- Reads settings. -/
def ofJson? (v : Json) : Option Settings := do
  let text? := Json.optional? Json.string?
  match ← Json.fields? names v with
  | [divergence, percent, minimum, time, mode] =>
    return ⟨← divergence.withDefault none text?, ← percent.withDefault none text?,
      ← minimum.withDefault none text?,
      ← time.withDefault none (Json.optional? (Json.natBelow? 64)),
      ← mode.withDefault none text?⟩
  | _ => none

end QueryRegression.Settings
