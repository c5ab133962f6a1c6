import QueryRegression.Proofs.CollaboratorCalls
import QueryRegression.Proofs.RunShape

/-!
# Traces of tests

The trace of a test is all that can be seen of it: the calls that the engine received, the calls
that the collaborators received, and the result.

* `Executed`: what the executions of a test make of its result. This depends on the last call only.
* `TestTrace.IsOf`: how the parts of a trace belong together.
* `Runner.run_traces`: a run is a sequence of such traces, one for each test that was run, and so a
  statement about all results of all runs is a statement about one trace.
-/

namespace QueryRegression

variable {ε κ : Type}

/-! ## The executions of a test -/

/-- The result after an answer to the execution of a statement. -/
def recordAnswer (handler : Handler κ) (statement : Statement) (result : TestResult) :
    Except Error Outcome → TestResult
  | .ok outcome => Runner.recordOutcome handler statement result outcome
  | .error e => Runner.failExecution result e

theorem outcome_recordAnswer (handler : Handler κ) (statement : Statement) (r : TestResult)
    (answer : Except Error Outcome) :
    (recordAnswer handler statement r answer).outcome = answer.toOption := by
  cases answer with
  | error e => rfl
  | ok given =>
      simp only [recordAnswer, Runner.recordOutcome]
      split <;> cases given <;> rfl

/-- The executions of a test, and the result that they make of the one that it had before. -/
inductive Executed (handler : Handler κ) (first : TestResult) :
    List EngineCall → TestResult → Prop
  | idle {sql} : Executed handler first [] { first with sql }
  /-- Of the executions before the last one there is no trace but the time. -/
  | last {calls statement answer raised sql time} :
      Executed handler first (calls ++ [.execute statement answer raised])
        (recordAnswer handler statement { first with sql, executionTime := time } answer)

/-- A result that went on from another one: it has a statement, a status, an outcome and a time of
its own, and nothing was found wrong. -/
def TestResult.GoesOnFrom (result first : TestResult) : Prop :=
  ∃ sql status outcome time, result = { first with sql, status, outcome, executionTime := time }

variable {handler : Handler κ} {first result : TestResult} {calls : List EngineCall}

theorem TestResult.GoesOnFrom.withSql (h : result.GoesOnFrom first) (sql : String) :
    TestResult.GoesOnFrom { result with sql } first := by
  obtain ⟨_, status, outcome, time, rfl⟩ := h
  exact ⟨sql, status, outcome, time, rfl⟩

theorem Executed.withSql (h : Executed handler first calls result) (sql : String) :
    Executed handler first calls { result with sql } := by
  cases h with
  | idle => exact .idle
  | @last calls statement answer raised sql' time =>
      have renamed : { recordAnswer handler statement
          { first with sql := sql', executionTime := time } answer with sql } =
            recordAnswer handler statement { first with sql, executionTime := time } answer := by
        cases answer with
        | error e => rfl
        | ok outcome =>
            simp only [recordAnswer, Runner.recordOutcome]
            cases handler.checkExecution statement outcome <;> cases outcome <;> rfl
      rw [renamed]
      exact .last

/-- One more execution takes the place of those before. -/
theorem TestResult.GoesOnFrom.executed (h : result.GoesOnFrom first) (handler : Handler κ)
    (calls : List EngineCall) (statement : Statement) (answer : Except Error Outcome)
    (raised : Bool) :
    Executed handler first (calls ++ [.execute statement answer raised])
      (recordAnswer handler statement result answer) := by
  obtain ⟨sql, status, outcome, time, rfl⟩ := h
  have replaced : recordAnswer handler statement
      { first with sql, status, outcome, executionTime := time } answer =
        recordAnswer handler statement { first with sql, executionTime := time } answer := by
    cases answer with
    | error e => rfl
    | ok outcome =>
        simp only [recordAnswer, Runner.recordOutcome]
        cases handler.checkExecution statement outcome <;> cases outcome <;> rfl
  rw [replaced]
  exact .last

/-- A test goes on after a success only. -/
theorem TestResult.GoesOnFrom.recordAnswer (h : result.GoesOnFrom first) {statement : Statement}
    {answer : Except Error Outcome}
    (success : (recordAnswer handler statement result answer).isSuccess = true) :
    (recordAnswer handler statement result answer).GoesOnFrom first := by
  obtain ⟨sql, status, outcome, time, rfl⟩ := h
  cases answer with
  | error e => cases success
  | ok outcome =>
      simp only [QueryRegression.recordAnswer, Runner.recordOutcome] at success ⊢
      cases complaint : handler.checkExecution statement outcome with
      | some failure => rw [complaint] at success; cases success
      | none =>
          cases outcome with
          | exception e => rw [complaint] at success; cases success
          | table t => exact ⟨_, _, _, _, rfl⟩

namespace Runner

variable (handler) (engine : Engine ε)

theorem result_executeOnce (statement : Statement) (s : TestState (ε × List EngineCall)) :
    (executeOnce engine.recorded handler statement s).result =
      recordAnswer handler statement s.result (engine.execute statement s.engine.1).answer := by
  unfold executeOnce
  simp only [Engine.recorded]
  cases (engine.execute statement s.engine.1).answer <;> rfl

/-- Running a statement so many times keeps what the executions say of the result. -/
theorem executeTimes_executed (statement : Statement) (n : Nat)
    {s : TestState (ε × List EngineCall)} (begun : Executed handler first calls s.result)
    (goesOn : s.result.GoesOnFrom first) :
    ∃ more passed s', executeTimes engine.recorded handler statement n s = (passed, s') ∧
      s'.engine.2 = s.engine.2 ++ more ∧ Executed handler first (calls ++ more) s'.result ∧
      (passed = true → s'.result.GoesOnFrom first) := by
  induction n generalizing calls s with
  | zero =>
      refine ⟨[], true, s, rfl, (List.append_nil _).symm, ?_, fun _ => goesOn⟩
      rw [List.append_nil]
      exact begun
  | succ n ih =>
      let call := engine.execute statement s.engine.1
      have once := (executeOnce_extends engine handler statement s).received
      have result := result_executeOnce handler engine statement s
      have executed := goesOn.executed handler calls statement call.answer call.raised
      rw [← result] at executed
      rw [executeTimes]
      split
      next success =>
        rw [result] at success
        have next := goesOn.recordAnswer success
        rw [← result] at next
        obtain ⟨more, passed, s', went, received, after, goesOn'⟩ := ih executed next
        refine ⟨.execute statement call.answer call.raised :: more, passed, s', went, ?_, ?_,
          goesOn'⟩
        · rw [received, once, List.append_assoc]
          rfl
        · rw [List.append_cons]
          exact after
      next failure =>
        exact ⟨_, false, _, rfl, once, executed, fun passed => absurd passed Bool.false_ne_true⟩

/-- The result of a test after its executions is that of its calls. -/
theorem executeAll_executed (statements : List Statement) {s : TestState (ε × List EngineCall)}
    (begun : Executed handler first calls s.result) (goesOn : s.result.GoesOnFrom first) :
    ∃ more, (executeAll engine.recorded handler statements s).engine.2 = s.engine.2 ++ more ∧
      Executed handler first (calls ++ more)
        (executeAll engine.recorded handler statements s).result := by
  induction statements generalizing calls s with
  | nil => exact ⟨[], (List.append_nil _).symm, by rw [List.append_nil]; exact begun⟩
  | cons statement rest ih =>
      obtain ⟨more, passed, s', went, received, executed, goesOn'⟩ := executeTimes_executed handler
        engine statement statement.runTimes
        (s := { s with result := { s.result with sql := statement.sql } })
        (begun.withSql statement.sql) (goesOn.withSql statement.sql)
      rw [executeAll, went]
      cases passed with
      | false => exact ⟨more, received, executed⟩
      | true =>
          obtain ⟨further, received', executed'⟩ := ih executed (goesOn' rfl)
          refine ⟨more ++ further, ?_, ?_⟩
          · rw [received', received, List.append_assoc]
          · rw [← List.append_assoc]
            exact executed'

end Runner

/-! ## One test -/

/-- All that can be seen of a test. -/
structure TestTrace where
  test : QueryTest
  /-- The calls that the engine received. -/
  calls : List EngineCall
  /-- The calls that the collaborators received. -/
  asked : List CollaboratorCall
  result : TestResult

/-- The trace of a test in a run: its executions and one cleanup, and at the end what the handler
made of the result of the executions. -/
inductive TestTrace.IsOf (r : Runner κ) : TestTrace → Prop
  | intro (test executions before handled) {passed cleaned raised testId begun asked ended} :
      ScheduleCalls (r.handlerFor test) test.schedule executions passed →
      Executed (r.handlerFor test) (.fresh testId begun test (r.handlerFor test).mode)
        executions before →
      Handling test (Runner.settle before) (r.handlerFor test) asked handled →
      IsOf r ⟨test, executions ++ [.cleanup cleaned raised], asked, handled.finish ended⟩

namespace Runner

variable (r : Runner κ) (engine : Engine ε) (scenario : Scenario)

/-- A test starts with a fresh result in the mode in which it is run. -/
theorem freshResult_eq (test : QueryTest) (s : RunState ε κ) :
    r.freshResult engine test s =
      .fresh s!"{s.results.length + 1}" (engine.now s.engine) test (r.handlerFor test).mode := by
  unfold freshResult handlerFor
  cases r.overridesMode test <;> rfl

/-- What running a test adds, before what it held is released. -/
theorem runTest_traced (test : QueryTest)
    (s : RunState (ε × List EngineCall) (κ × List CollaboratorCall)) :
    let ran := r.recorded.runTest engine.recorded test s
    ∃ testId begun executions passed before asked handled ended,
      ScheduleCalls (r.handlerFor test) test.schedule executions passed ∧
      Executed (r.handlerFor test) (.fresh testId begun test (r.handlerFor test).mode) executions
        before ∧
      Handling test (settle before) (r.handlerFor test) asked handled ∧
      ran.results = s.results ++ [handled.finish ended] ∧
      ran.engine.2 = s.engine.2 ++ executions ∧ ran.collaborators.2 = s.collaborators.2 ++ asked ∧
      ran.abort = executions.findSome? EngineCall.abortReason := by
  intro ran
  have views := r.isViewOf_recorded.handlerFor test
  have fresh := r.recorded.freshResult_eq engine.recorded test s
  rw [← views.mode] at fresh
  let first : TestResult := .fresh s!"{s.results.length + 1}" (engine.now s.engine.1) test
    (r.handlerFor test).mode
  let begun : TestState (ε × List EngineCall) := ⟨s.engine, s.interrupt, first, none⟩
  let t := executeAll engine.recorded (r.handlerFor test) test.statements begun
  -- The executions do not look at what the collaborators keep.
  have same : executeAll engine.recorded (r.recorded.handlerFor test) test.statements
      ⟨s.engine, s.interrupt, r.recorded.freshResult engine.recorded test s, none⟩ = t := by
    rw [fresh]
    exact (executeAll_view (.refl engine.recorded) views test.statements begun).symm
  obtain ⟨executions, passed, schedule, extension⟩ :=
    executeAll_calls engine (r.handlerFor test) test.statements begun
  have idle : Executed (r.handlerFor test) first [] begun.result := .idle
  have goesOn : begun.result.GoesOnFrom first := ⟨_, _, _, _, rfl⟩
  obtain ⟨executions', received, executed⟩ :=
    executeAll_executed (r.handlerFor test) engine test.statements idle goesOn
  have one : executions' = executions :=
    List.append_cancel_left (received.symm.trans extension.received)
  rw [one, List.nil_append] at executed
  obtain ⟨asked, noted, handling⟩ :=
    handleResult_handling (r.handlerFor test) test t.result s.collaborators
  refine ⟨_, _, executions, passed, t.result, asked, _, engine.now t.engine.1, schedule, executed,
    handling, ?_, ?_, ?_, ?_⟩
  · rw [← r.handlerFor_recorded test, ← same]
    rfl
  · exact (congrArg (·.engine.2) same).trans extension.received
  · rw [← r.handlerFor_recorded test, ← same] at noted
    exact noted
  · exact (congrArg TestState.abort same).trans (extension.abort rfl)

/-- What a further test adds to a run. -/
theorem afterTest_traced (test : QueryTest)
    (s : RunState (ε × List EngineCall) (κ × List CollaboratorCall)) :
    let s' := r.recorded.afterTest engine.recorded scenario test s
    ∃ trace : TestTrace, trace.IsOf r ∧ trace.test = test ∧
      s'.results = s.results ++ [trace.result] ∧ s'.engine.2 = s.engine.2 ++ trace.calls ∧
      s'.collaborators.2 = s.collaborators.2 ++ trace.asked ∧
      (s'.abort = none → trace.calls.findSome? EngineCall.abortReason = none) := by
  intro s'
  let ran := r.recorded.runTest engine.recorded test s
  obtain ⟨testId, begun, executions, passed, before, asked, handled, ended, schedule, executed,
    handling, ranResults, ranEngine, ranCollaborators, ranAbort⟩ := r.runTest_traced engine test s
  obtain ⟨cleaned, -, cleanedResults, cleanedAbort, cleanedCollaborators⟩ :=
    cleanUp_calls engine test ran
  obtain ⟨keptEngine, keptResults, keptCollaborators, -⟩ :=
    heedInterrupt_kept scenario.name (cleanUp engine.recorded test ran)
  let cleanup := engine.cleanup ran.engine.1
  refine ⟨⟨test, executions ++ [.cleanup cleanup.answer cleanup.raised], asked,
    handled.finish ended⟩, .intro _ _ _ _ schedule executed handling, rfl, ?_, ?_, ?_, ?_⟩
  · exact keptResults.trans (cleanedResults.trans ranResults)
  · exact (congrArg Prod.snd keptEngine).trans
      (cleaned.trans (by rw [ranEngine, List.append_assoc]))
  · exact (congrArg Prod.snd (keptCollaborators.trans cleanedCollaborators)).trans ranCollaborators
  · intro running
    have abort := heedInterrupt_abort scenario.name (cleanUp engine.recorded test ran)
    rw [cleanedAbort, ranAbort] at abort
    have none := (Option.or_eq_none_iff.mp (abort.symm.trans running)).1
    simp [none, EngineCall.abortReason]

/-! ## All tests -/

/-- What the traces of some tests say of the state after them. -/
structure TracedAt (first : EngineCall) (traces : List TestTrace) (done : List QueryTest)
    (s : RunState (ε × List EngineCall) (κ × List CollaboratorCall)) : Prop where
  tests : traces.map TestTrace.test = done
  results : s.results = traces.map TestTrace.result
  calls : s.engine.2 = first :: traces.flatMap TestTrace.calls
  asked : s.collaborators.2 = traces.flatMap TestTrace.asked
  each : ∀ trace ∈ traces, trace.IsOf r
  /-- After a call that ends the run there is no further test. -/
  unended : ∀ trace ∈ traces.dropLast, trace.calls.findSome? EngineCall.abortReason = none
  running : s.abort = none →
    ∀ trace ∈ traces, trace.calls.findSome? EngineCall.abortReason = none

variable {r engine scenario} in
theorem TracedAt.test {first : EngineCall} {traces : List TestTrace} {done : List QueryTest}
    {s : RunState (ε × List EngineCall) (κ × List CollaboratorCall)}
    (h : r.TracedAt first traces done s) (running : s.abort = none) (test : QueryTest) :
    ∃ trace, r.TracedAt first (traces ++ [trace]) (done ++ [test])
      (r.recorded.afterTest engine.recorded scenario test s) := by
  obtain ⟨trace, isOf, ofTest, results, calls, asked, goesOn⟩ :=
    r.afterTest_traced engine scenario test s
  refine ⟨trace, ?_, ?_, ?_, ?_, ?_, ?_, ?_⟩
  · simp [h.tests, ofTest]
  · simp [results, h.results]
  · simp [calls, h.calls]
  · simp [asked, h.asked]
  · intro other member
    rcases List.mem_append.mp member with earlier | now
    · exact h.each other earlier
    · rw [List.mem_singleton.mp now]
      exact isOf
  · rw [List.dropLast_concat]
    exact h.running running
  · intro still other member
    rcases List.mem_append.mp member with earlier | now
    · exact h.running running other earlier
    · rw [List.mem_singleton.mp now]
      exact goesOn still

/-- What is kept of the traces of the tests that were run and of the state. -/
structure TraceInvariant (deadline : Option Span) (holds : List TestTrace →
    RunState (ε × List EngineCall) (κ × List CollaboratorCall) → Prop) : Prop where
  test : ∀ {traces trace s}, s.abort = none → ¬IsOver engine.recorded deadline s →
    (r.recorded.afterTest engine.recorded scenario trace.test s).engine.2 =
      s.engine.2 ++ trace.calls → holds traces s →
    holds (traces ++ [trace]) (r.recorded.afterTest engine.recorded scenario trace.test s)
  late : ∀ {traces s}, s.abort = none → IsOver engine.recorded deadline s →
    holds traces s → holds traces { s with abort := some budgetExceeded }
  opened : ∀ {traces s} (log : List LogLine), holds traces s → holds traces { s with log }
  closed : ∀ {traces s} (name : String) (begun ended : Instant) (log : List LogLine),
    holds traces s → holds traces { s with summary := s.summary.closeSet name begun ended, log }

variable {r engine scenario} in
theorem TraceInvariant.invariant {deadline : Option Span} {holds : List TestTrace →
      RunState (ε × List EngineCall) (κ × List CollaboratorCall) → Prop}
    (inv : r.TraceInvariant engine scenario deadline holds) (first : EngineCall) :
    r.recorded.Invariant engine.recorded scenario deadline
      (fun done s => ∃ traces, r.TracedAt first traces done s ∧ holds traces s) where
  test := by
    rintro done test s - running inTime ⟨traces, h, kept⟩
    obtain ⟨trace, h'⟩ : ∃ trace, r.TracedAt first (traces ++ [trace]) (done ++ [test])
        (r.recorded.afterTest engine.recorded scenario test s) := h.test running test
    have tests := h'.tests
    rw [List.map_append, List.map_singleton, ← h.tests] at tests
    obtain ⟨rfl⟩ := List.cons.inj (List.append_cancel_left tests)
    have calls := h'.calls
    rw [List.flatMap_append, List.flatMap_singleton, ← List.cons_append, ← h.calls] at calls
    exact ⟨_, h', inv.test running inTime calls kept⟩
  late := fun _ running late ⟨traces, h, kept⟩ =>
    ⟨traces, { h with running := nofun }, inv.late running late kept⟩
  opened := fun log ⟨traces, h, kept⟩ => ⟨traces, { h with }, inv.opened log kept⟩
  closed := fun name begun ended log ⟨traces, h, kept⟩ =>
    ⟨traces, { h with }, inv.closed name begun ended log kept⟩

end Runner

/-- A run is a sequence of traces, one for each test that was run. -/
structure RunTraces (r : Runner κ) (engine : Engine ε) (scenario : Scenario) (state : ε)
    (collaborators : κ) (interrupt : Interrupt) (traces : List TestTrace) : Prop where
  tests : traces.map TestTrace.test = scenario.tests.take traces.length
  results : (r.run engine scenario state collaborators interrupt).report.results =
    traces.map TestTrace.result
  calls : r.calls engine scenario state collaborators interrupt =
    .ping (engine.ping state).answer (engine.ping state).raised ::
      traces.flatMap TestTrace.calls
  asked : r.collaboratorCalls engine scenario state collaborators interrupt =
    traces.flatMap TestTrace.asked
  each : ∀ trace ∈ traces, trace.IsOf r
  /-- After a call that ends the run there is no further test. -/
  unended : ∀ trace ∈ traces.dropLast, trace.calls.findSome? EngineCall.abortReason = none

namespace Runner

variable (r : Runner κ) (engine : Engine ε) (scenario : Scenario)

/-- Every run is a sequence of traces, of which holds what every test keeps. -/
theorem run_traces_keeping {holds : List TestTrace →
      RunState (ε × List EngineCall) (κ × List CollaboratorCall) → Prop}
    (state : ε) (inv : r.TraceInvariant engine scenario
      (r.deadline scenario.totalQueries (engine.elapsed state)) holds) (collaborators : κ)
    (interrupt : Interrupt) (begun : holds []
      (r.recorded.start engine.recorded scenario (state, []) (collaborators, []) interrupt)) :
    ∃ traces, RunTraces r engine scenario state collaborators interrupt traces ∧
      holds traces (r.recorded.finalState engine.recorded scenario (state, []) (collaborators, [])
        interrupt) := by
  let both := r.recorded.run engine.recorded scenario (state, []) (collaborators, []) interrupt
  have plain : r.run engine scenario state collaborators interrupt = both.view Prod.fst Prod.fst :=
    run_view scenario engine.isViewOf_recorded r.isViewOf_recorded (state, []) (collaborators, [])
      interrupt
  have calls : r.calls engine scenario state collaborators interrupt = both.engine.2 :=
    congrArg (·.engine.2) (run_view scenario (.refl engine.recorded) r.isViewOf_recorded (state, [])
      (collaborators, []) interrupt)
  have asked : r.collaboratorCalls engine scenario state collaborators interrupt =
      both.collaborators.2 :=
    congrArg (·.collaborators.2) (run_view scenario engine.isViewOf_recorded (.refl r.recorded)
      (state, []) (collaborators, []) interrupt)
  let s := r.recorded.start engine.recorded scenario (state, []) (collaborators, []) interrupt
  let first := EngineCall.ping (engine.ping state).answer (engine.ping state).raised
  have traced : r.TracedAt first [] [] s :=
    ⟨rfl, rfl, rfl, rfl, List.forall_mem_nil _, List.forall_mem_nil _, fun _ =>
      List.forall_mem_nil _⟩
  obtain ⟨ran, before, traces, h, kept⟩ : ∃ ran, ran <+: scenario.tests ∧
      ∃ traces, r.TracedAt first traces ran (r.recorded.finalState engine.recorded scenario
        (state, []) (collaborators, []) interrupt) ∧
      holds traces (r.recorded.finalState engine.recorded scenario (state, []) (collaborators, [])
        interrupt) := by
    cases connected : s.abort with
    | none =>
        obtain ⟨ran, before, kept, -⟩ :=
          (inv.invariant first).finalState connected ⟨[], traced, begun⟩
        exact ⟨ran, before, kept⟩
    | some reason =>
        have refused : s.abort ≠ none := by
          rw [connected]
          exact Option.some_ne_none reason
        rw [finalState_of_not_connected refused]
        exact ⟨[], List.nil_prefix, [], traced, begun⟩
  have count : traces.length = ran.length := by rw [← h.tests, List.length_map]
  refine ⟨traces, ⟨?_, ?_, ?_, ?_, h.each, h.unended⟩, kept⟩
  · rw [h.tests, count]
    exact List.prefix_iff_eq_take.mp before
  · rw [plain]
    exact h.results
  · rw [calls]
    exact h.calls
  · rw [asked]
    exact h.asked

/-- Every run is a sequence of traces. -/
theorem run_traces (state : ε) (collaborators : κ) (interrupt : Interrupt) :
    ∃ traces, RunTraces r engine scenario state collaborators interrupt traces := by
  have nothing : r.TraceInvariant engine scenario
      (r.deadline scenario.totalQueries (engine.elapsed state)) fun _ _ => True :=
    ⟨fun _ _ _ _ => trivial, fun _ _ _ => trivial, fun _ _ => trivial, fun _ _ _ _ _ => trivial⟩
  obtain ⟨traces, h, -⟩ :=
    r.run_traces_keeping engine scenario state nothing collaborators interrupt trivial
  exact ⟨traces, h⟩

end Runner
end QueryRegression
