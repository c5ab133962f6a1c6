import QueryRegression.Error
import QueryRegression.Outcome
import QueryRegression.Text.Ascii
import QueryRegression.Text.Blank

/-!
# Modes

The modes of a scenario, and the ways to match messages, as they are named in settings. Names are
read without regard to the case of ASCII letters and to blanks around them.
-/

namespace QueryRegression

/-- What is done with the outcome of a test. -/
inductive ResultMode where
  /-- It is compared with the expected outcome. -/
  | compare
  /-- Only the declared counts are checked. -/
  | counts
  /-- It is recorded as the new expected outcome. -/
  | generate
  /-- Nothing. -/
  | execute
deriving DecidableEq

/-- A name as it is compared. -/
def settingName (s : String) : String := Text.asciiLower (Text.trim s)

namespace ResultMode

/-- The name of a mode. -/
def name : ResultMode → String
  | .compare => "compare"
  | .counts => "none"
  | .generate => "generate"
  | .execute => "sql"

/-- The modes by name. -/
def names : List (String × ResultMode) :=
  [("compare", .compare), ("none", .counts), ("generate", .generate), ("sql", .execute)]

/-- The mode that a setting names. -/
def ofText (s : String) : Except Error ResultMode :=
  match names.lookup (settingName s) with
  | some mode => .ok mode
  | none => .error (.configuration (.unknownResultMode (settingName s)))

end ResultMode

namespace MessageMatch

/-- The name of a way to match messages. -/
def name : MessageMatch → String
  | .exact => "exact"
  | .contains => "contains"
  | .startsWith => "starts_with"
  | .regex => "regex"

/-- The ways to match messages by name. -/
def names : List (String × MessageMatch) :=
  [("exact", .exact), ("contains", .contains), ("starts_with", .startsWith), ("regex", .regex)]

/-- The way to match messages that a setting names; a blank one names the exact match. -/
def ofText (s : String) : Except Error MessageMatch :=
  match settingName s with
  | "" => .ok .exact
  | "startswith" => .ok .startsWith
  | name =>
    match names.lookup name with
    | some messageMatch => .ok messageMatch
    | none => .error (.configuration (.unknownMessageMatch name))

end MessageMatch
end QueryRegression
