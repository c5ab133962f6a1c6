import QueryRegression.LargeObject
import QueryRegression.Number.Integer
import QueryRegression.Table

/-!
# Errors

What makes it impossible to carry out a comparison or a run. A test that fails is no error. Each
kind of error holds its cause; `stated` is a cause that a collaborator gives in its own words.
-/

namespace QueryRegression

/-- Why a large object cannot be compared. -/
inductive LargeObjectFault where
  | unreadable (kind : LargeObjectKind) (fault : ReadFault)
  | stated (words : String)
deriving DecidableEq

/-- The wording of a fault. -/
def LargeObjectFault.message : LargeObjectFault → String
  | .unreadable kind fault => "failed to read " ++ kind.name ++ ": " ++ fault.message
  | .stated words => words

/-- Why a configuration cannot be used. -/
inductive ConfigurationFault where
  | unknownMessageMatch (name : String)
  | unknownResultMode (name : String)
  | invalidPercent (text : String)
  | invalidMinimum (text : String) (fault : Number.IntegerFault)
  | readerMissing
  | writerMissing
  | nothingExpected (querySet query : String)
  | stated (words : String)
deriving DecidableEq

/-- The wording of a fault. -/
def ConfigurationFault.message : ConfigurationFault → String
  | .unknownMessageMatch name => "unknown exception match mode: " ++ name
  | .unknownResultMode name => "unknown result mode: " ++ name
  | .invalidPercent text => "invalid execute_exceed_percent '" ++ text ++ "': invalid float literal"
  | .invalidMinimum text fault =>
    "invalid execute_time_minimum '" ++ text ++ "': " ++ fault.message
  | .readerMissing => "compare mode requires an expected results reader"
  | .writerMissing => "generate mode requires an expected results writer"
  | .nothingExpected querySet query =>
    "no expected results recorded for " ++ querySet ++ ":" ++ query
  | .stated words => words

/-- Why an internal rule is broken. -/
inductive InternalFault where
  | malformedTable (fault : TableFault)
  /-- A sort broke off, since the order of the values is not consistent. -/
  | inconsistentOrder
  | stated (words : String)
deriving DecidableEq

/-- The wording of a fault. -/
def InternalFault.message : InternalFault → String
  | .malformedTable fault => fault.message
  | .inconsistentOrder =>
    "user-provided comparison function does not correctly implement a total order"
  | .stated words => words

/-- What can go wrong apart from the tests themselves. -/
inductive Error where
  | io (words : String)
  | largeObject (fault : LargeObjectFault)
  /-- An expected message is no regular expression. -/
  | invalidPattern (words : String)
  | configuration (fault : ConfigurationFault)
  | serialization (words : String)
  /-- A statement could not be run. -/
  | execution (words : String)
  | connection (words : String)
  | scenarioAborted (words : String)
  | interrupted (words : String)
  | internal (fault : InternalFault)
deriving DecidableEq

namespace Error

/-- The wording of an error. -/
def message : Error → String
  | .io words => "I/O error: " ++ words
  | .largeObject fault => "Large object error: " ++ fault.message
  | .invalidPattern words => "Invalid exception message regex pattern: " ++ words
  | .configuration fault => "Configuration error: " ++ fault.message
  | .serialization words => "Serialization error: " ++ words
  | .execution words => "Execution error: " ++ words
  | .connection words => "Connection error: " ++ words
  | .scenarioAborted words => "Scenario aborted: " ++ words
  | .interrupted words => "Interrupted: " ++ words
  | .internal fault => "Internal error: " ++ fault.message

/-- Whether an error that ends the execution of a statement ends the whole run. -/
def abortsScenario : Error → Bool
  | .connection _ | .scenarioAborted _ | .interrupted _ => true
  | _ => false

end Error
end QueryRegression
