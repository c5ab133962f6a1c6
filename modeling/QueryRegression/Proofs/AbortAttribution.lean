import QueryRegression.Proofs.GenerateThenCompare
import QueryRegression.Proofs.TestTrace

/-!
# What errors of executions lead to

An execution that ends in an error fails its test. Some errors end the run as well; after any other
one the run goes on with the next test, unless it is stopped by the time or by a request
(`Runner.run_errors`). The connection is named as the reason for a stop only if it was refused or an
error ended the run.
-/

namespace QueryRegression

variable {ε κ : Type}

/-- An execution of the test ended in the error. -/
def TestTrace.Erred (trace : TestTrace) (e : Error) : Prop :=
  ∃ statement raised, .execute statement (.error e) raised ∈ trace.calls

/-- What errors of executions lead to. -/
structure ErrorsContained (engine : Engine ε) (scenario : Scenario) (state : ε)
    (traces : List TestTrace) (report : ScenarioReport) : Prop where
  /-- Nothing else is taken for a fault of the connection. -/
  attributed : ∀ reason, report.abort = some reason → reason.kind = .connection →
    (∃ e, (engine.ping state).answer = .error e) ∨
      ∃ trace ∈ traces, ∃ e, trace.Erred e ∧ e.abortsScenario = true
  refused : ∀ e, (engine.ping state).answer = .error e →
    traces = [] ∧ report.abort = some ⟨.connection, e.message⟩
  lost : ∀ trace ∈ traces, ∀ words, trace.Erred (.connection words) →
    report.abort = some ⟨.connection, (Error.connection words).message⟩
  /-- A test fails without an outcome if it erred itself, and only then. -/
  failed : ∀ trace ∈ traces,
    trace.result.isSuccess = false ∧ trace.result.outcome = none ↔ ∃ e, trace.Erred e
  ended : ∀ trace ∈ traces, ∀ e, trace.Erred e → e.abortsScenario = true →
    traces.getLast? = some trace ∧ report.abort.isSome = true
  goesOn : ∀ n trace e, traces[n]? = some trace → trace.Erred e → e.abortsScenario = false →
    n + 1 < scenario.tests.length →
    (∀ reason, report.abort = some reason →
      reason.kind ≠ .timeBudgetExceeded ∧ reason.kind ≠ .interrupted) →
    n + 1 < traces.length

/-! ## One test -/

section Test

variable {handler : Handler κ} {test : QueryTest} {before result : TestResult}
  {asked : List CollaboratorCall}

/-- A test is over after an error, and no call before that ends the run. -/
theorem ScheduleCalls.eq_of_error {schedule : List Statement} {calls : List EngineCall}
    {passed : Bool} {statement : Statement} {e : Error} {raised : Bool}
    (planned : ScheduleCalls handler schedule calls passed)
    (erred : .execute statement (.error e) raised ∈ calls) :
    ∃ earlier, calls = earlier ++ [.execute statement (.error e) raised] ∧
      earlier.findSome? EngineCall.abortReason = none := by
  induction planned with
  | nil => cases erred
  | last => exact ⟨[], by rw [List.mem_singleton.mp erred]; rfl, rfl⟩
  | @cons _ _ raised' _ _ _ well _ ih =>
      rcases List.mem_cons.mp erred with now | later
      · obtain ⟨t, answer, -⟩ := well
        rw [answer] at now
        cases now
      · obtain ⟨earlier, eq, unended⟩ := ih later
        refine ⟨_ :: earlier, by rw [eq]; rfl, ?_⟩
        rw [List.findSome?_cons, well.abortReason_eq_none]
        exact unended

/-- No handler makes a success of a failure without an outcome. -/
theorem Handling.failed (handling : Handling test before handler asked result)
    (none : before.outcome = none) (status : before.status = .exception) :
    result.isSuccess = false := by
  have failed : before.isSuccess = false := by rw [TestResult.isSuccess, status]; rfl
  cases handling with
  | unanswered => rw [TestResult.isSuccess_unlessRefused, failed, Bool.and_false]
  | unexpected | incomparable => rfl
  | matched some | mismatched some | written some => cases none.symm.trans some
  | counted passed => cases failed.symm.trans passed
  | miscounted =>
      rw [TestResult.isSuccess_unlessRefused, TestResult.isSuccess_withMessageFailure, failed,
        Bool.and_false]
  | unwritten | executed => exact failed

/-- A success without an outcome stays a success: there is nothing to compare, to tell or to
write. -/
theorem Handling.passed_of_idle (handling : Handling test before handler asked result)
    (none : before.outcome = none) (success : before.isSuccess = true)
    (empty : before.failures = []) : result.isSuccess = true := by
  cases handling with
  | unanswered _ told =>
      obtain ⟨-, rfl⟩ := told.eq_nil empty
      exact success
  | unexpected some | incomparable some | matched some | mismatched some | written some =>
      cases none.symm.trans some
  | miscounted failed => cases success.symm.trans failed
  | counted | unwritten | executed => exact success

end Test

namespace TestTrace.IsOf

variable {r : Runner κ} {trace : TestTrace} {e : Error}

/-- Among the calls for a test, an error is all that can end the run. -/
theorem abortReason_of_erred (h : trace.IsOf r) (erred : trace.Erred e) :
    trace.calls.findSome? EngineCall.abortReason = Runner.abortOf e := by
  cases h with
  | intro test executions before handled schedule executed handling =>
      obtain ⟨statement, raised, member⟩ := erred
      have execution : .execute statement (.error e) raised ∈ executions := by simpa using member
      obtain ⟨earlier, rfl, unended⟩ := schedule.eq_of_error execution
      cases abort : Runner.abortOf e <;> simp [unended, EngineCall.abortReason, abort]

/-- A call for a test that ends the run is an execution that ended in such an error. -/
theorem erred_of_abortReason (h : trace.IsOf r) {call : EngineCall} (member : call ∈ trace.calls)
    {reason : AbortReason} (isReason : call.abortReason = some reason) :
    ∃ e, trace.Erred e ∧ e.abortsScenario = true := by
  cases h with
  | intro test executions before handled schedule executed handling =>
      match call with
      | .ping answer raised =>
          have execution : .ping answer raised ∈ executions := by simpa using member
          cases schedule.ping_not_mem answer raised execution
      | .execute statement (.error e) raised =>
          refine ⟨e, ⟨statement, raised, member⟩, ?_⟩
          cases aborts : e.abortsScenario with
          | true => rfl
          | false => rw [EngineCall.abortReason, Runner.abortOf, aborts] at isReason; cases isReason
      | .execute _ (.ok _) _ => cases isReason
      | .cleanup _ _ => cases isReason

/-- An error fails its test, and leaves no outcome. -/
theorem failed_of_erred (h : trace.IsOf r) (erred : trace.Erred e) :
    trace.result.isSuccess = false ∧ trace.result.outcome = none := by
  cases h with
  | intro test executions before handled schedule executed handling =>
      obtain ⟨statement, raised, member⟩ := erred
      have execution : .execute statement (.error e) raised ∈ executions := by simpa using member
      -- The result tells of the last execution, which is the one with the error.
      obtain ⟨earlier, last, -⟩ := schedule.eq_of_error execution
      cases executed with
      | idle => cases execution
      | last =>
          obtain ⟨-, same⟩ := List.append_inj' last rfl
          cases same
          exact ⟨handling.failed rfl rfl, handling.keeps.2⟩

/-- A test that failed and has no outcome erred. -/
theorem erred_of_failed (h : trace.IsOf r) (failed : trace.result.isSuccess = false)
    (blank : trace.result.outcome = none) : ∃ e, trace.Erred e := by
  cases h with
  | intro test executions before handled schedule executed handling =>
      have unanswered : before.outcome = none :=
        (Runner.settle_outcome before).symm.trans (handling.keeps.2.symm.trans blank)
      cases executed with
      | idle => cases failed.symm.trans (handling.passed_of_idle rfl rfl rfl)
      | @last _ statement answer raised _ _ =>
          rw [outcome_recordAnswer] at unanswered
          cases answer with
          | ok outcome => cases unanswered
          | error e => exact ⟨e, statement, raised, by simp⟩

end TestTrace.IsOf

/-! ## All tests -/

namespace RunTraces

variable {r : Runner κ} {engine : Engine ε} {scenario : Scenario} {state : ε} {collaborators : κ}
  {interrupt : Interrupt} {traces : List TestTrace} {trace : TestTrace}

/-- A call that ends the run is one for the last test. -/
theorem exists_eq_concat (h : RunTraces r engine scenario state collaborators interrupt traces)
    (member : trace ∈ traces) (ended : trace.calls.findSome? EngineCall.abortReason ≠ none) :
    ∃ earlier, traces = earlier ++ [trace] := by
  rcases List.eq_nil_or_concat traces with rfl | ⟨earlier, last, rfl⟩
  · cases member
  · rw [List.concat_eq_append] at h member ⊢
    rcases List.mem_append.mp member with before | now
    · have unended := h.unended trace
      rw [List.dropLast_concat] at unended
      exact absurd (unended before) ended
    · exact ⟨earlier, by rw [List.mem_singleton.mp now]⟩

/-- Only the calls for the last test can end a run that has a connection. -/
theorem findSome?_calls {earlier : List TestTrace}
    (h : RunTraces r engine scenario state collaborators interrupt (earlier ++ [trace]))
    (accepted : (engine.ping state).answer = .ok ()) :
    (r.calls engine scenario state collaborators interrupt).findSome? EngineCall.abortReason =
      trace.calls.findSome? EngineCall.abortReason := by
  have before : (earlier.flatMap TestTrace.calls).findSome? EngineCall.abortReason = none := by
    rw [List.findSome?_eq_none_iff]
    intro call member
    obtain ⟨other, inRun, isCall⟩ := List.mem_flatMap.mp member
    have unended := h.unended other (by rwa [List.dropLast_concat])
    exact List.findSome?_eq_none_iff.mp unended call isCall
  rw [h.calls, accepted, List.findSome?_cons, List.flatMap_append, List.findSome?_append, before]
  simp [EngineCall.abortReason]

/-- An error that ends the run is one of the last test, and names the reason. -/
theorem abort_of_erred (h : RunTraces r engine scenario state collaborators interrupt traces)
    (shape : RunShape r engine scenario state interrupt
      (r.calls engine scenario state collaborators interrupt)
      (r.run engine scenario state collaborators interrupt))
    (accepted : (engine.ping state).answer = .ok ()) (member : trace ∈ traces) {e : Error}
    (erred : trace.Erred e) {reason : AbortReason} (ends : Runner.abortOf e = some reason) :
    traces.getLast? = some trace ∧
      (r.run engine scenario state collaborators interrupt).report.abort = some reason := by
  have ended := ((h.each trace member).abortReason_of_erred erred).trans ends
  obtain ⟨earlier, rfl⟩ := h.exists_eq_concat member (by rw [ended]; exact nofun)
  exact ⟨List.getLast?_concat, shape.heeded ((h.findSome?_calls accepted).trans ended)⟩

/-- After a test with an error that does not end the run, only the time or a request can stop it. -/
theorem length_lt_of_erred (h : RunTraces r engine scenario state collaborators interrupt traces)
    (shape : RunShape r engine scenario state interrupt
      (r.calls engine scenario state collaborators interrupt)
      (r.run engine scenario state collaborators interrupt))
    (accepted : (engine.ping state).answer = .ok ()) {n : Nat} (inPlace : traces[n]? = some trace)
    {e : Error} (erred : trace.Erred e) (harmless : e.abortsScenario = false)
    (planned : n + 1 < scenario.tests.length)
    (calm : ∀ reason,
      (r.run engine scenario state collaborators interrupt).report.abort = some reason →
        reason.kind ≠ .timeBudgetExceeded ∧ reason.kind ≠ .interrupted) :
    n + 1 < traces.length := by
  refine Nat.lt_of_not_le fun short => ?_
  obtain ⟨inRange, -⟩ := List.getElem?_eq_some_iff.mp inPlace
  have length : traces.length = n + 1 := Nat.le_antisymm short inRange
  have last : traces.getLast? = some trace := by
    rw [List.getLast?_eq_getElem?, length]
    exact inPlace
  obtain ⟨earlier, rfl⟩ := List.getLast?_eq_some_iff.mp last
  have member : trace ∈ earlier ++ [trace] := List.mem_of_getElem? inPlace
  have none : Runner.abortOf e = none := by rw [Runner.abortOf, harmless]; rfl
  have unended := (h.findSome?_calls accepted).trans
    (((h.each trace member).abortReason_of_erred erred).trans none)
  cases stopped : (r.run engine scenario state collaborators interrupt).report.abort with
  | none =>
      have all := shape.complete stopped
      rw [h.results, List.length_map, length] at all
      omega
  | some reason =>
      obtain ⟨notBudget, notInterrupt⟩ := calm reason stopped
      cases shape.stopped stopped with
      | call ended => cases unended.symm.trans ended
      | budget => exact notBudget rfl
      | interrupt => exact notInterrupt rfl

end RunTraces

namespace Runner

variable {r : Runner κ} {engine : Engine ε} {scenario : Scenario} {state : ε} {collaborators : κ}
  {interrupt : Interrupt} {traces : List TestTrace}

/-- Without a connection there is no test that could err. -/
theorem errorsContained_refused {e : Error} (refused : (engine.ping state).answer = .error e)
    (h : RunTraces r engine scenario state collaborators interrupt traces) :
    ErrorsContained engine scenario state traces
      (r.run engine scenario state collaborators interrupt).report := by
  have shape : RunShape r engine scenario state interrupt
      (r.calls engine scenario state collaborators interrupt)
      (r.run engine scenario state collaborators interrupt) :=
    r.runShape_refused engine scenario refused
  obtain ⟨-, none, stops⟩ := shape.refused refused
  have empty : traces = [] := List.map_eq_nil_iff.mp (h.results.symm.trans none)
  subst empty
  refine ⟨fun _ _ _ => .inl ⟨e, refused⟩, fun e' again => ?_, List.forall_mem_nil _,
    List.forall_mem_nil _, List.forall_mem_nil _, fun _ _ _ inPlace => ?_⟩
  · cases refused.symm.trans again
    exact ⟨rfl, stops⟩
  · cases inPlace

theorem errorsContained_connected (accepted : (engine.ping state).answer = .ok ())
    (h : RunTraces r engine scenario state collaborators interrupt traces) :
    ErrorsContained engine scenario state traces
      (r.run engine scenario state collaborators interrupt).report := by
  have shape : RunShape r engine scenario state interrupt
      (r.calls engine scenario state collaborators interrupt)
      (r.run engine scenario state collaborators interrupt) :=
    r.runShape_connected engine scenario accepted
  refine ⟨?_, ?_, ?_, ?_, ?_, ?_⟩
  · intro reason stopped kind
    cases shape.stopped stopped with
    | call ended =>
        obtain ⟨call, member, isReason⟩ := List.exists_of_findSome?_eq_some ended
        rw [h.calls, accepted] at member
        rcases List.mem_cons.mp member with rfl | later
        · cases isReason
        · obtain ⟨trace, inRun, isCall⟩ := List.mem_flatMap.mp later
          exact .inr ⟨trace, inRun, (h.each trace inRun).erred_of_abortReason isCall isReason⟩
    | budget => cases kind
    | interrupt => cases kind
  · intro e refused
    cases accepted.symm.trans refused
  · intro trace member words erred
    exact (h.abort_of_erred shape accepted member erred rfl).2
  · intro trace member
    have isOf := h.each trace member
    exact ⟨fun ⟨failed, blank⟩ => isOf.erred_of_failed failed blank,
      fun ⟨_, erred⟩ => isOf.failed_of_erred erred⟩
  · intro trace member e erred aborts
    have ends : abortOf e = some ⟨.connection, e.message⟩ := if_pos aborts
    obtain ⟨last, stops⟩ := h.abort_of_erred shape accepted member erred ends
    exact ⟨last, by rw [stops]; rfl⟩
  · intro n trace e inPlace erred harmless planned calm
    exact h.length_lt_of_erred shape accepted inPlace erred harmless planned calm

/-- Errors of executions are contained: each fails the test in which it occurs, and that test alone
unless the error is of a kind that ends the run. -/
theorem run_errors (r : Runner κ) (engine : Engine ε) (scenario : Scenario) (state : ε)
    (collaborators : κ) (interrupt : Interrupt) :
    ∃ traces, RunTraces r engine scenario state collaborators interrupt traces ∧
      ErrorsContained engine scenario state traces
        (r.run engine scenario state collaborators interrupt).report := by
  obtain ⟨traces, h⟩ := r.run_traces engine scenario state collaborators interrupt
  refine ⟨traces, h, ?_⟩
  cases answer : (engine.ping state).answer with
  | error e => exact errorsContained_refused answer h
  | ok _ => exact errorsContained_connected answer h

/-- An execution that was interrupted ends the run before the second test, and is taken for a fault
of the connection, although the connection was never refused and no error told of its loss. -/
theorem interruption_ends_run :
    let scenario : Scenario := ⟨"regression", [⟨"people",
      [.ofSql "people" "first" "SELECT 1", .ofSql "people" "second" "SELECT 2"]⟩]⟩
    let cancelled : Error := .interrupted "the statement was cancelled"
    let engine : Engine Unit :=
      { execute := fun _ s => ⟨.error cancelled, s, false⟩, elapsed := fun _ => ⟨0⟩,
        now := fun _ => ⟨0⟩ }
    let r : Runner Unit := .ofHandler .execute (.ofSink { report := fun _ _ s => ⟨.ok (), s⟩ })
    r.calls engine scenario () () .new =
        [.ping (.ok ()) false, .execute (.ofSql "SELECT 1") (.error cancelled) false,
          .cleanup (.ok ()) false] ∧
      (r.run engine scenario () () .new).report.abort =
        some ⟨.connection, "Interrupted: the statement was cancelled"⟩ ∧
      (r.run engine scenario () () .new).report.results.map TestResult.query = ["first"] ∧
      scenario.tests.length = 2 := by
  decide +kernel

end Runner
end QueryRegression
