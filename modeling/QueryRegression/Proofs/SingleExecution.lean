import QueryRegression.Proofs.RunShape

/-!
# Tests with one execution

A test that is not confined to its declared counts runs one statement once, or nothing at all: its
answer is the outcome of its result, and the handler of the run decides about it.

* `Runner.afterTest_single`: what such a test changes in a run.
* `Runner.run_of_steady`: what holds at the end of a run of such tests that nobody stops.
-/

namespace QueryRegression

/-- The answer that an execution got. -/
def EngineCall.answer? : EngineCall → Option (Except Error Outcome)
  | .execute _ answer _ => some answer
  | _ => none

/-- The answers that the executions among some calls got, in their order. -/
def answers (calls : List EngineCall) : List (Except Error Outcome) :=
  calls.filterMap EngineCall.answer?

theorem answers_append (calls more : List EngineCall) :
    answers (calls ++ more) = answers calls ++ answers more :=
  List.filterMap_append

namespace QueryTest

/-- Whether a test runs any statement. -/
def executes (t : QueryTest) : Bool := !t.schedule.isEmpty

/-- A test that may be compared has at most one execution. -/
theorem schedule_of_not_countsOnly {t : QueryTest} (single : t.countsOnly = false) :
    t.statements = [] ∨ ∃ statement, t.statements = [statement] ∧
      (statement.runTimes = 0 ∨ statement.runTimes = 1) := by
  simp only [countsOnly, Bool.or_eq_false_iff, decide_eq_false_iff_not, List.any_eq_false,
    Bool.or_eq_true, decide_eq_true_eq, not_or] at single
  obtain ⟨few, once⟩ := single
  match statements : t.statements with
  | [] => exact .inl rfl
  | [statement] =>
      have times := (once statement (by simp [statements])).1
      exact .inr ⟨statement, rfl, by omega⟩
  | _ :: _ :: _ =>
      rw [statements] at few
      simp at few

end QueryTest

namespace Runner

variable {ε κ : Type} (r : Runner κ) (engine : Engine ε) (scenario : Scenario)

theorem handlerFor_of_not_countsOnly {test : QueryTest} (single : test.countsOnly = false) :
    r.handlerFor test = r.handler := by
  simp [handlerFor, overridesMode, single]

theorem outcome_executeOnce {handler : Handler κ} {statement : Statement} {s : TestState ε}
    {outcome : Outcome} (answer : (engine.execute statement s.engine).answer = .ok outcome) :
    (executeOnce engine handler statement s).result.outcome = some outcome := by
  have recorded : (recordOutcome handler statement s.result outcome).outcome = some outcome := by
    unfold recordOutcome
    split <;> cases outcome <;> rfl
  simp only [executeOnce, answer, recorded]

/-- A test with at most one execution asks the engine once, or not at all, and its result holds the
outcome that the engine answers. -/
theorem executeAll_single {test : QueryTest} (single : test.countsOnly = false)
    (handler : Handler κ) (s : TestState (ε × List EngineCall)) :
    let s' := executeAll engine.recorded handler test.statements s
    ∃ answer : Option (Except Error Outcome), answer.isSome = test.executes ∧
      answers s'.engine.2 = answers s.engine.2 ++ answer.toList ∧
      (answer = none → ∃ sql, s'.result = { s.result with sql }) ∧
      ∀ outcome, answer = some (.ok outcome) → s'.result.outcome = some outcome := by
  rcases test.schedule_of_not_countsOnly single with none | ⟨statement, one, never | once⟩
  · refine ⟨.none, ?_, ?_, ?_, ?_⟩
    · simp [QueryTest.executes, QueryTest.schedule, none]
    · simp [none, executeAll]
    · exact fun _ => ⟨s.result.sql, by rw [none]; rfl⟩
    · intro outcome impossible
      cases impossible
  · have skipped : executeAll engine.recorded handler test.statements s =
        { s with result := { s.result with sql := statement.sql } } := by
      simp [one, executeAll, never, executeTimes]
    refine ⟨.none, ?_, ?_, ?_, ?_⟩
    · simp [QueryTest.executes, QueryTest.schedule, one, never]
    · simp [skipped]
    · exact fun _ => ⟨statement.sql, by rw [skipped]⟩
    · intro outcome impossible
      cases impossible
  · let named := { s with result := { s.result with sql := statement.sql } }
    have asked : executeAll engine.recorded handler test.statements s =
        executeOnce engine.recorded handler statement named := by
      simp only [one, executeAll, once, executeTimes]
      cases (executeOnce engine.recorded handler statement named).result.isSuccess <;> rfl
    have call := executeOnce_extends engine handler statement named
    refine ⟨some (engine.execute statement s.engine.1).answer, ?_, ?_, ?_, ?_⟩
    · simp [QueryTest.executes, QueryTest.schedule, one, once]
    · simp only [asked, call.received, answers_append]
      rfl
    · intro impossible
      cases impossible
    · intro outcome answer
      rw [asked]
      exact outcome_executeOnce engine.recorded (Option.some.inj answer)

/-- What the answer that a test with at most one execution got means for its result, before this is
handed to the handler. -/
structure SingleResult (test : QueryTest) (answer : Option (Except Error Outcome))
    (result : TestResult) : Prop where
  executed : answer.isSome = test.executes
  idle : answer = none → result.outcome = none ∧ result.status = .preRun ∧ result.failures = []
  outcome : ∀ outcome, answer = some (.ok outcome) → result.outcome = some outcome

/-- What a test with at most one execution changes in a run. -/
structure SingleEffect (test : QueryTest) (answer : Option (Except Error Outcome))
    (result : TestResult) (s s' : RunState (ε × List EngineCall) κ) : Prop where
  received : ∃ calls, s'.engine.2 = s.engine.2 ++ calls
  answered : answers s'.engine.2 = answers s.engine.2 ++ answer.toList
  results : ∃ ended, s'.results =
    s.results ++ [(handleResult r.handler test result s.collaborators).1.finish ended]
  collaborators : s'.collaborators = (handleResult r.handler test result s.collaborators).2.1
  /-- With an outcome or without an execution, only a request stops the run. -/
  goesOn : (∀ e, answer ≠ some (.error e)) → s.interrupt.raised = false →
    (∀ call ∈ s'.engine.2, call.raised = false) → s'.abort = none ∧ s'.interrupt.raised = false

/-- A call for a test that ends the run is an execution that got an error. -/
theorem error_mem_answers {handler : Handler κ} {test : QueryTest} {calls : List EngineCall}
    {reason : AbortReason} (shape : TestCalls handler test calls)
    (ended : calls.findSome? EngineCall.abortReason = some reason) :
    ∃ e, .error e ∈ answers calls := by
  obtain ⟨executions, passed, answer, raised, schedule, rfl⟩ := shape
  obtain ⟨call, member, isReason⟩ := List.exists_of_findSome?_eq_some ended
  match call with
  | .execute statement (.error e) raised' =>
      exact ⟨e, List.mem_filterMap.mpr ⟨_, member, rfl⟩⟩
  | .execute _ (.ok _) _ => cases isReason
  | .cleanup _ _ => cases isReason
  | .ping answer' raised' =>
      have impossible := schedule.ping_not_mem answer' raised'
      simp [impossible] at member

theorem afterTest_single {test : QueryTest} (single : test.countsOnly = false)
    (s : RunState (ε × List EngineCall) κ) :
    ∃ answer result, SingleResult test answer result ∧
      SingleEffect r test answer result s (r.afterTest engine.recorded scenario test s) := by
  obtain ⟨answer, executed, answered, idle, outcome⟩ := executeAll_single engine single
    (r.handlerFor test) ⟨s.engine, s.interrupt, r.freshResult engine.recorded test s, none⟩
  obtain ⟨cleaned, -, cleanedResults, -, cleanedCollaborators⟩ :=
    cleanUp_calls engine test (r.runTest engine.recorded test s)
  obtain ⟨keptEngine, keptResults, keptCollaborators, -⟩ := heedInterrupt_kept scenario.name
    (cleanUp engine.recorded test (r.runTest engine.recorded test s))
  obtain ⟨calls, effect⟩ := r.afterTest_effect engine scenario test s
  have handler := r.handlerFor_of_not_countsOnly single
  have answered' : answers (r.afterTest engine.recorded scenario test s).engine.2 =
      answers s.engine.2 ++ answer.toList := by
    rw [afterTest, keptEngine, cleaned, answers_append]
    exact (List.append_nil _).trans answered
  refine ⟨answer, _, ⟨executed, ?_, outcome⟩, ⟨calls, effect.received⟩, answered',
    ⟨engine.recorded.now (r.runTest engine.recorded test s).engine, ?_⟩, ?_, ?_⟩
  · intro none
    obtain ⟨sql, result⟩ := idle none
    rw [result]
    unfold freshResult
    simp only
    split <;> exact ⟨rfl, rfl, rfl⟩
  · rw [afterTest, keptResults, cleanedResults, ← handler]
    rfl
  · rw [afterTest, keptCollaborators, cleanedCollaborators, ← handler]
    rfl
  · intro harmless calm quiet
    have same : answers calls = answer.toList := by
      rw [effect.received, answers_append] at answered'
      exact List.append_cancel_left answered'
    have unraised : (s.interrupt.raised || calls.any EngineCall.raised) = false := by
      rw [calm, Bool.false_or, List.any_eq_false]
      intro call member
      have later : call ∈ (r.afterTest engine.recorded scenario test s).engine.2 := by
        rw [effect.received]
        exact List.mem_append_right _ member
      exact Bool.eq_false_iff.mp (quiet call later)
    refine ⟨?_, Bool.eq_false_iff.mpr fun raised => ?_⟩
    · cases stopped : (r.afterTest engine.recorded scenario test s).abort with
      | none => rfl
      | some reason =>
          rcases effect.stopped stopped with ended | ⟨-, raised⟩
          · obtain ⟨e, member⟩ := error_mem_answers effect.shape ended
            rw [same, Option.mem_toList] at member
            cases harmless e member
          · cases raised.symm.trans unraised
    · cases (effect.raised raised).symm.trans unraised

/-! ## Runs that nobody stops -/

/-- Nobody asks the run to stop, and every answer to an execution is allowed in its place. -/
structure Steady (allowed : Nat → Except Error Outcome → Prop) (calls : List EngineCall) :
    Prop where
  quiet : ∀ call ∈ calls, call.raised = false
  answered : ∀ n answer, (answers calls)[n]? = some answer → allowed n answer

theorem Steady.of_append {allowed : Nat → Except Error Outcome → Prop}
    {calls more : List EngineCall} (steady : Steady allowed (calls ++ more)) :
    Steady allowed calls := by
  refine ⟨fun call member => steady.quiet call (List.mem_append_left _ member), ?_⟩
  intro n answer inPlace
  refine steady.answered n answer ?_
  obtain ⟨within, -⟩ := List.getElem?_eq_some_iff.mp inPlace
  rw [answers_append, List.getElem?_append_left within, inPlace]

/-- What is kept by every test with at most one execution, if the answer that it gets is allowed: a
statement about the tests that were run, the answers, the results and the collaborators. No such
answer is an error. -/
structure SteadyStep (allowed : Nat → Except Error Outcome → Prop)
    (holds : List QueryTest → List (Except Error Outcome) → List TestResult → κ → Prop) : Prop where
  test : ∀ {done test given results collaborators answer result},
    done ++ [test] <+: scenario.tests → holds done given results collaborators →
    SingleResult test answer result → (∀ a, answer = some a → allowed given.length a) →
    (∀ e, answer ≠ some (.error e)) ∧
      ∀ ended, holds (done ++ [test]) (given ++ answer.toList)
        (results ++ [(handleResult r.handler test result collaborators).1.finish ended])
        (handleResult r.handler test result collaborators).2.1

variable {allowed : Nat → Except Error Outcome → Prop}
  {holds : List QueryTest → List (Except Error Outcome) → List TestResult → κ → Prop}

/-- What is known after some tests of a run that was steady so far. -/
def SteadyAt (allowed : Nat → Except Error Outcome → Prop)
    (holds : List QueryTest → List (Except Error Outcome) → List TestResult → κ → Prop)
    (done : List QueryTest) (s : RunState (ε × List EngineCall) κ) : Prop :=
  Steady allowed s.engine.2 → s.abort = none ∧ s.interrupt.raised = false ∧
    holds done (answers s.engine.2) s.results s.collaborators

theorem SteadyStep.invariant (step : r.SteadyStep scenario allowed holds)
    (timeless : r.timeForOneQuery = none)
    (singles : ∀ test ∈ scenario.tests, test.countsOnly = false) (began : Span) :
    r.Invariant engine.recorded scenario (r.deadline scenario.totalQueries began)
      (SteadyAt allowed holds) := by
  constructor
  case opened => exact fun _ h => h
  case closed => exact fun _ _ _ _ h => h
  case late =>
    intro done s _ _ late
    simp [IsOver, isOver, deadline, budget, timeless] at late
  case test =>
    intro done test s next _ _ h steady
    have member : test ∈ scenario.tests := next.subset (by simp)
    obtain ⟨answer, result, ran, effect⟩ :=
      afterTest_single r engine scenario (singles test member) s
    obtain ⟨calls, received⟩ := effect.received
    obtain ⟨-, calm, before⟩ := h (received ▸ steady).of_append
    -- The answer of this test comes after those of the tests before.
    have inPlace : ∀ a, answer = some a → allowed (answers s.engine.2).length a := by
      intro a got
      refine steady.answered _ a ?_
      simp [effect.answered, got]
    obtain ⟨harmless, after⟩ := step.test next before ran inPlace
    obtain ⟨running, stillCalm⟩ := effect.goesOn harmless calm steady.quiet
    obtain ⟨ended, results⟩ := effect.results
    refine ⟨running, stillCalm, ?_⟩
    rw [effect.answered, results, effect.collaborators]
    exact after ended

/-- What every test keeps is true of the answers, the results and the collaborators after a run that
nobody stops, and the run takes all tests. -/
theorem run_of_steady (timeless : r.timeForOneQuery = none)
    (singles : ∀ test ∈ scenario.tests, test.countsOnly = false)
    (step : r.SteadyStep scenario allowed holds)
    {state : ε} {collaborators : κ} (accepted : (engine.ping state).answer = .ok ())
    (begun : holds [] [] [] collaborators)
    (steady : Steady allowed (r.calls engine scenario state collaborators .new)) :
    let run := r.run engine scenario state collaborators .new
    run.report.abort = none ∧
      holds scenario.tests (answers (r.calls engine scenario state collaborators .new))
        run.report.results run.collaborators := by
  obtain ⟨received, raised, connected⟩ := start_calls r engine scenario state collaborators .new
  rw [accepted] at received connected
  have started : SteadyAt allowed holds []
      (r.start engine.recorded scenario (state, []) collaborators .new) := by
    intro steady
    rw [received] at steady ⊢
    have quiet : (engine.ping state).raised = false := steady.quiet _ List.mem_cons_self
    exact ⟨connected, raised.trans quiet, begun⟩
  obtain ⟨ran, -, h, all⟩ :=
    (step.invariant r engine scenario timeless singles _).finalState connected started
  obtain ⟨running, -, after⟩ := h steady
  rw [all running] at after
  rw [run_recorded]
  exact ⟨running, after⟩

end Runner
end QueryRegression
