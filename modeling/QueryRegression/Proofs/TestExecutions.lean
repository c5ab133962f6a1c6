import QueryRegression.Proofs.GenerateThenCompare
import QueryRegression.Proofs.TestTrace

/-!
# The executions of a test

A test executes its statements in their order, each as often as it is to be run, and stops after the
first execution that fails. What is left of a test is decided by its last execution: the outcome in
its result, and whether the run has to stop.

* `executions`: the executions among some calls.
* `Runner.Fails`: what counts as the failure of an execution.
* `Runner.runTest_stopsAtFailure`: what a test executes and what is left of it, in any mode.
-/

namespace QueryRegression

variable {ε κ : Type}

/-- An execution of a statement: what the engine answered, and whether the run was asked to stop
meanwhile. -/
structure Execution where
  statement : Statement
  answer : Except Error Outcome
  raised : Bool
deriving DecidableEq

/-- The call that an execution is. -/
def Execution.call (e : Execution) : EngineCall := .execute e.statement e.answer e.raised

/-- The execution that a call is, if it is one. -/
def EngineCall.execution? : EngineCall → Option Execution
  | .execute statement answer raised => some ⟨statement, answer, raised⟩
  | _ => none

/-- The executions among some calls, in their order. -/
def executions (calls : List EngineCall) : List Execution :=
  calls.filterMap EngineCall.execution?

theorem executions_concat (calls : List EngineCall) (e : Execution) :
    executions (calls ++ [e.call]) = executions calls ++ [e] :=
  List.filterMap_append

/-- Whether an execution in a test fails: the engine answers an error or an exception, or a table
without the declared counts where these are checked. -/
def Runner.Fails (r : Runner κ) (test : QueryTest) (e : Execution) : Prop :=
  match e.answer with
  | .error _ => True
  | .ok (.exception _) => True
  | .ok (.table t) =>
    (test.countsOnly = true ∨ r.mode = .counts) ∧ e.statement.checkTable t ≠ none

/-- How the executions of a test belong together with its schedule, with the outcome in its result,
and with the reason to stop that it gives. -/
structure StopsAtFailure (r : Runner κ) (test : QueryTest) (executions : List Execution)
    (outcome : Option Outcome) (abort : Option AbortReason) : Prop where
  inOrder : executions.map Execution.statement <+: test.schedule
  /-- After a failure there is no further execution. -/
  last : ∀ e ∈ executions.dropLast, ¬r.Fails test e
  /-- Nothing but a failure leaves out a part of the schedule. -/
  whole : (∀ e ∈ executions, ¬r.Fails test e) →
    executions.map Execution.statement = test.schedule
  outcome : outcome = executions.getLast?.bind fun e => e.answer.toOption
  abort : ∀ reason, abort = some reason ↔ ∃ e error, executions.getLast? = some e ∧
    e.answer = .error error ∧ error.abortsScenario = true ∧ reason = ⟨.connection, error.message⟩

/-! ## Calls of a schedule -/

namespace ScheduleCalls

variable {handler : Handler κ} {schedule : List Statement} {calls : List EngineCall}
  {passed : Bool}

/-- All calls of a schedule are executions. -/
theorem map_call_executions (planned : ScheduleCalls handler schedule calls passed) :
    (executions calls).map Execution.call = calls := by
  induction planned with
  | nil => rfl
  | last => rfl
  | cons _ _ ih => exact congrArg (List.cons _) ih

theorem inOrder (planned : ScheduleCalls handler schedule calls passed) :
    (executions calls).map Execution.statement <+: schedule := by
  induction planned with
  | nil => exact List.nil_prefix
  | last => exact List.cons_prefix_cons.mpr ⟨rfl, List.nil_prefix⟩
  | cons _ _ ih => exact List.cons_prefix_cons.mpr ⟨rfl, ih⟩

/-- Every execution but the last goes well. -/
theorem goesWell_of_mem_dropLast (planned : ScheduleCalls handler schedule calls passed) :
    ∀ e ∈ (executions calls).dropLast, handler.GoesWell e.statement e.answer := by
  induction planned with
  | nil => exact List.forall_mem_nil _
  | last => exact List.forall_mem_nil _
  | @cons statement answer raised rest calls passed well _ ih =>
      change ∀ e ∈ (⟨statement, answer, raised⟩ :: executions calls).dropLast, _
      intro e member
      cases later : executions calls with
      | nil => rw [later] at member; cases member
      | cons next more =>
          rw [later, List.dropLast_cons_cons] at member
          rcases List.mem_cons.mp member with rfl | member
          · exact well
          · exact ih e (later ▸ member)

/-- Executions that all go well are those of the whole schedule. -/
theorem whole (planned : ScheduleCalls handler schedule calls passed)
    (well : ∀ e ∈ executions calls, handler.GoesWell e.statement e.answer) :
    (executions calls).map Execution.statement = schedule := by
  induction planned with
  | nil => rfl
  | @last statement answer raised _ badly =>
      exact absurd (well ⟨statement, answer, raised⟩ List.mem_cons_self) badly
  | cons _ _ ih => exact congrArg (List.cons _) (ih fun e member =>
      well e (List.mem_cons_of_mem _ member))

/-- Only the last call of a schedule can end the run. -/
theorem findSome?_abortReason (planned : ScheduleCalls handler schedule calls passed) :
    calls.findSome? EngineCall.abortReason =
      (executions calls).getLast?.bind fun e => e.call.abortReason := by
  induction planned with
  | nil => rfl
  | last => exact List.findSome?_singleton
  | @cons statement answer raised rest calls passed well _ ih =>
      change _ = (⟨statement, answer, raised⟩ :: executions calls).getLast?.bind _
      rw [List.findSome?_cons, well.abortReason_eq_none, ih]
      cases later : executions calls with
      | nil => exact (well.abortReason_eq_none raised).symm
      | cons next more => rw [List.getLast?_cons_cons]

end ScheduleCalls

/-- The outcome of a result is what the engine answered last. -/
theorem Executed.outcome_eq {handler : Handler κ} {first result : TestResult}
    {calls : List EngineCall} (executed : Executed handler first calls result)
    (fresh : first.outcome = none) :
    result.outcome = (executions calls).getLast?.bind fun e => e.answer.toOption := by
  cases executed with
  | idle => exact fresh
  | @last earlier statement answer raised _ _ =>
      have last := executions_concat earlier ⟨statement, answer, raised⟩
      rw [Execution.call] at last
      rw [outcome_recordAnswer, last, List.getLast?_concat]
      rfl

namespace Runner

variable (r : Runner κ) (engine : Engine ε)

/-! ## One test -/

/-- The calls that the engine receives while a test is run, before what it held is released. -/
def testCalls (test : QueryTest) (s : RunState ε κ) : List EngineCall :=
  (r.runTest engine.recorded test { s with engine := (s.engine, []) }).engine.2

/-- Recording the calls of a test changes nothing in what it leaves. -/
theorem runTest_recorded (test : QueryTest) (s : RunState ε κ) :
    r.runTest engine test s =
      (r.runTest engine.recorded test { s with engine := (s.engine, []) }).view Prod.fst id :=
  runTest_view engine.isViewOf_recorded (.refl r) test { s with engine := (s.engine, []) }

/-- What running a test leaves, and what its executions and its handler have to do with it. -/
theorem runTest_trace (test : QueryTest) (s : RunState ε κ) :
    let ran := r.runTest engine test s
    ∃ testId begun passed before asked handled ended,
      ScheduleCalls (r.handlerFor test) test.schedule (r.testCalls engine test s) passed ∧
      Executed (r.handlerFor test) (.fresh testId begun test (r.handlerFor test).mode)
        (r.testCalls engine test s) before ∧
      Handling test (settle before) (r.handlerFor test) asked handled ∧
      ran.results = s.results ++ [handled.finish ended] ∧
      ran.abort = (r.testCalls engine test s).findSome? EngineCall.abortReason := by
  intro ran
  let watched : RunState (ε × List EngineCall) (κ × List CollaboratorCall) :=
    { s with engine := (s.engine, []), collaborators := (s.collaborators, []) }
  obtain ⟨testId, begun, calls, passed, before, asked, handled, ended, planned, executed, handling,
    results, received, -, abort⟩ := r.runTest_traced engine test watched
  -- The executions do not look at what the collaborators keep.
  have same : r.runTest engine.recorded test { s with engine := (s.engine, []) } =
      (r.recorded.runTest engine.recorded test watched).view id Prod.fst :=
    runTest_view (.refl engine.recorded) r.isViewOf_recorded test watched
  have made : r.testCalls engine test s = calls :=
    (congrArg (·.engine.2) same).trans received
  have left : ran = ((r.recorded.runTest engine.recorded test watched).view id Prod.fst).view
      Prod.fst id := (r.runTest_recorded engine test s).trans (congrArg _ same)
  rw [made, left]
  exact ⟨testId, begun, passed, before, asked, handled, ended, planned, executed, handling, results,
    abort⟩

/-- Declared counts are checked in tests that are confined to them, and in scenarios of that
mode. -/
theorem checkExecution_handlerFor (test : QueryTest) (statement : Statement) (outcome : Outcome) :
    (r.handlerFor test).checkExecution statement outcome =
      if test.countsOnly = true ∨ r.mode = .counts then statement.checkCounts outcome
      else none := by
  unfold handlerFor overridesMode mode
  cases r.handler <;> cases test.countsOnly <;> rfl

variable {r} in
theorem goesWell_iff_not_fails {test : QueryTest} {e : Execution} :
    (r.handlerFor test).GoesWell e.statement e.answer ↔ ¬r.Fails test e := by
  obtain ⟨statement, answer, raised⟩ := e
  unfold Handler.GoesWell Fails
  match answer with
  | .error _ => simp
  | .ok (.exception _) => simp
  | .ok (.table t) => simp [checkExecution_handlerFor, Statement.checkCounts]

/-- The reason to stop that an execution gives is an error that ends the run. -/
theorem abortReason_call_eq_some_iff {e : Execution} {reason : AbortReason} :
    e.call.abortReason = some reason ↔ ∃ error, e.answer = .error error ∧
      error.abortsScenario = true ∧ reason = ⟨.connection, error.message⟩ := by
  obtain ⟨statement, answer, raised⟩ := e
  cases answer with
  | ok outcome => exact ⟨nofun, fun ⟨_, failed, _⟩ => nomatch failed⟩
  | error error =>
      change abortOf error = some reason ↔ _
      unfold abortOf
      cases aborts : error.abortsScenario with
      | false =>
          refine ⟨nofun, ?_⟩
          rintro ⟨_, same, ends, -⟩
          cases same
          cases aborts.symm.trans ends
      | true =>
          constructor
          · intro names
            exact ⟨error, rfl, aborts, (Option.some.inj names).symm⟩
          · rintro ⟨_, same, -, names⟩
            cases same
            exact congrArg some names.symm

/-- A test executes its statements in their order, each as often as it is to be run, up to the first
execution that fails. The last execution decides about the outcome in the result, and about whether
the run has to stop. -/
theorem runTest_stopsAtFailure (test : QueryTest) (s : RunState ε κ) :
    let calls := r.testCalls engine test s
    let ran := r.runTest engine test s
    calls = (executions calls).map Execution.call ∧
      ∃ result, ran.results = s.results ++ [result] ∧
        StopsAtFailure r test (executions calls) result.outcome ran.abort := by
  intro calls ran
  obtain ⟨testId, begun, passed, before, asked, handled, ended, planned, executed, handling,
    results, abort⟩ := r.runTest_trace engine test s
  have kept : (handled.finish ended).outcome = before.outcome :=
    handling.keeps.2.trans (settle_outcome before)
  refine ⟨planned.map_call_executions.symm, handled.finish ended, results, planned.inOrder, ?_, ?_,
    kept.trans (executed.outcome_eq rfl), ?_⟩
  · intro e member
    exact goesWell_iff_not_fails.mp (planned.goesWell_of_mem_dropLast e member)
  · intro successful
    exact planned.whole fun e member => goesWell_iff_not_fails.mpr (successful e member)
  · intro reason
    rw [show ran.abort = _ from abort, planned.findSome?_abortReason, Option.bind_eq_some_iff]
    simp only [abortReason_call_eq_some_iff]
    exact ⟨fun ⟨e, isLast, error, answer, aborts, names⟩ =>
        ⟨e, error, isLast, answer, aborts, names⟩,
      fun ⟨e, error, isLast, answer, aborts, names⟩ => ⟨e, isLast, error, answer, aborts, names⟩⟩

end Runner
end QueryRegression
