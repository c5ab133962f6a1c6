import QueryRegression.Test.Result
import QueryRegression.Text.Clip

/-!
# Log lines

What a run writes to its log, and the log as a destination for failures.
-/

namespace QueryRegression

/-- How much a log line matters. -/
inductive LogLevel where
  | error
  | warn
  | info
  | debug
deriving DecidableEq

/-- The name of a level. -/
def LogLevel.name : LogLevel → String
  | .error => "ERROR"
  | .warn => "WARN"
  | .info => "INFO"
  | .debug => "DEBUG"

/-- A line of the log. -/
structure LogLine where
  level : LogLevel
  text : String
deriving DecidableEq

/-- The line with its level in front. -/
def LogLine.toText (l : LogLine) : String := l.level.name ++ " " ++ l.text

/-- A destination that writes failures to the log, cut to a length. -/
structure LogSink where
  maxLength : Nat

namespace LogSink

/-- A destination with the usual length. -/
def standard : LogSink := ⟨500⟩

/-- The lines for the failures of a test: its message, and those of the failures after the
first. -/
def report (sink : LogSink) (result : TestResult) (failures : List Failure) : List LogLine :=
  ⟨.warn, "Test " ++ result.querySet ++ ":" ++ result.query ++ " failed: " ++
    Text.clip (result.failureMessage.getD "") sink.maxLength⟩ ::
    (failures.drop 1).map fun f => ⟨.debug, "  " ++ Text.clip f.message sink.maxLength⟩

/-- The lines for a further report of all messages: none. -/
def reportAll (_sink : LogSink) (_result : TestResult) (_failures : List Failure) :
    List LogLine := []

end LogSink
end QueryRegression
