import QueryRegression.Test.Result

/-!
# Collaborators

Whatever a run needs besides the engine: a source of expected outcomes, a destination for new
ones, and a destination for failures. Each acts on a state that they share and may refuse with an
error; what it did before it refused stays done.
-/

namespace QueryRegression

/-- What a collaborator answers, and the state it leaves behind. -/
structure Reply (κ α : Type) where
  answer : Except Error α
  state : κ

/-- A source of expected outcomes. -/
abbrev Reader (κ : Type) := QueryTest → κ → Reply κ Outcome

/-- A destination for expected outcomes. -/
abbrev Writer (κ : Type) := QueryTest → Outcome → κ → Reply κ Unit

/-- A destination for the failures of tests. -/
structure Sink (κ : Type) where
  /-- Takes the failures of a test. -/
  report : TestResult → List Failure → κ → Reply κ Unit
  /-- Takes all messages of a test with more than one failure, after `report`. -/
  reportAll : TestResult → List Failure → κ → Reply κ Unit := fun _ _ state => ⟨.ok (), state⟩

/-- The collaborators of a run. -/
structure Collaborators (κ : Type) where
  reader : Option (Reader κ)
  writer : Option (Writer κ)
  sink : Sink κ

namespace Collaborators

variable {κ : Type}

/-- Collaborators with a destination for failures only. -/
def ofSink (sink : Sink κ) : Collaborators κ := ⟨none, none, sink⟩

/-- The collaborators with a source of expected outcomes. -/
def withReader (c : Collaborators κ) (reader : Reader κ) : Collaborators κ :=
  { c with reader := some reader }

/-- The collaborators with a destination for expected outcomes. -/
def withWriter (c : Collaborators κ) (writer : Writer κ) : Collaborators κ :=
  { c with writer := some writer }

end Collaborators

/-- Hands the failures of a result to a sink, and all messages if there are several failures. -/
def Sink.take {κ : Type} (sink : Sink κ) (result : TestResult) (state : κ) : Reply κ Unit :=
  if result.failures.isEmpty then ⟨.ok (), state⟩
  else
    match sink.report result result.failures state with
    | ⟨.error e, state⟩ => ⟨.error e, state⟩
    | ⟨.ok _, state⟩ =>
      if 1 < result.failures.length then sink.reportAll result result.failures state
      else ⟨.ok (), state⟩

end QueryRegression
