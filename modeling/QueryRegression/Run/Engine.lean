import QueryRegression.Calendar.Instant
import QueryRegression.Error
import QueryRegression.Outcome
import QueryRegression.Test

/-!
# Engines

The engine under test, with the clocks that run beside it. An exception that it raises for a
statement is an outcome; an error means that the statement could not be run. During every call
someone may ask the run to stop.
-/

namespace QueryRegression

/-- What a call of an engine led to. -/
structure Call (ε α : Type) where
  answer : Except Error α
  state : ε
  /-- Whether the run was asked to stop during the call. -/
  raised : Bool

/-- A call that succeeded without effect. -/
def Call.done {ε : Type} (state : ε) : Call ε Unit := ⟨.ok (), state, false⟩

/-- An engine that acts on a state. -/
structure Engine (ε : Type) where
  /-- Checks the connection before the first test. -/
  ping : ε → Call ε Unit := .done
  /-- Runs a statement. -/
  execute : Statement → ε → Call ε Outcome
  /-- Releases what a test held. -/
  cleanup : ε → Call ε Unit := .done
  /-- The reading of a steady clock. -/
  elapsed : ε → Span
  /-- The time of day. -/
  now : ε → Instant

end QueryRegression
