import QueryRegression.Proofs.RunInvariant
import QueryRegression.Proofs.TestCalls

/-!
# The shape of a run

`RunShape` says how the calls that an engine receives, the results in the report and the reason to
stop belong together, and `Runner.run_shape` that every run is like that: whatever the engine
answers, whenever the run is asked to stop, and however much time passes.
-/

namespace QueryRegression

variable {ε κ : Type}

/-- The calls for one test: its executions, and then one cleanup. -/
def TestCalls (handler : Handler κ) (test : QueryTest) (calls : List EngineCall) : Prop :=
  ∃ executions passed answer raised, ScheduleCalls handler test.schedule executions passed ∧
    calls = executions ++ [.cleanup answer raised]

/-- The calls for some tests in their order. After a call that ends the run there is no further
test. -/
inductive SessionCalls (r : Runner κ) : List QueryTest → List EngineCall → Prop
  | nil : SessionCalls r [] []
  | snoc {tests calls test more} : SessionCalls r tests calls →
      calls.findSome? EngineCall.abortReason = none → TestCalls (r.handlerFor test) test more →
      SessionCalls r (tests ++ [test]) (calls ++ more)

/-- What can stop a run that began at a reading of the clock, made some calls and left the engine in
a state. -/
inductive StopCause (r : Runner κ) (engine : Engine ε) (scenario : Scenario) (began : Span)
    (interrupt : Interrupt) (calls : List EngineCall) (state : ε) : AbortReason → Prop
  | call {reason} : calls.findSome? EngineCall.abortReason = some reason →
      StopCause r engine scenario began interrupt calls state reason
  | budget {last} : r.deadline scenario.totalQueries began = some last →
      last.nanoseconds < (engine.elapsed state).nanoseconds →
      StopCause r engine scenario began interrupt calls state Runner.budgetExceeded
  | interrupt : (interrupt.raised || calls.any EngineCall.raised) = true →
      StopCause r engine scenario began interrupt calls state Runner.wasInterrupted

/-- How the calls of a run, its results and the reason to stop belong together. -/
structure RunShape (r : Runner κ) (engine : Engine ε) (scenario : Scenario) (state : ε)
    (interrupt : Interrupt) (calls : List EngineCall) (run : Run ε κ) : Prop where
  planned : run.report.planned = scenario.tests.length
  /-- The results are those of the first tests. -/
  inOrder : run.report.results.map TestResult.key =
    (scenario.tests.take run.report.results.length).map QueryTest.key
  /-- A run that does not stop early takes all tests. -/
  complete : run.report.abort = none → run.report.results.length = scenario.tests.length
  /-- Without a connection there is no call but the first. -/
  refused : ∀ {e}, (engine.ping state).answer = .error e →
    calls = [.ping (.error e) (engine.ping state).raised] ∧ run.report.results = [] ∧
      run.report.abort = some ⟨.connection, e.message⟩
  /-- With a connection, the other calls are those for the tests with a result. -/
  connected : (engine.ping state).answer = .ok () → ∃ session,
    calls = .ping (.ok ()) (engine.ping state).raised :: session ∧
      SessionCalls r (scenario.tests.take run.report.results.length) session
  /-- A call that ends the run names its reason. -/
  heeded : ∀ {reason}, calls.findSome? EngineCall.abortReason = some reason →
    run.report.abort = some reason
  /-- Nothing else stops a run than the causes above. -/
  stopped : ∀ {reason}, run.report.abort = some reason →
    StopCause r engine scenario (engine.elapsed state) interrupt calls run.engine reason
  /-- Whatever a cleanup answers, and whatever other errors executions end in, all tests are run. -/
  unshortened : (engine.ping state).answer = .ok () →
    (∀ statement e raised, EngineCall.execute statement (.error e) raised ∈ calls →
      e.abortsScenario = false) →
    interrupt.raised = false → (∀ call ∈ calls, call.raised = false) →
    (∀ last, r.deadline scenario.totalQueries (engine.elapsed state) = some last →
      (engine.elapsed run.engine).nanoseconds ≤ last.nanoseconds) →
    run.report.results.length = scenario.tests.length

/-- The engine is asked for a connection before the first test only. -/
theorem SessionCalls.ping_not_mem {r : Runner κ} {tests : List QueryTest} {calls : List EngineCall}
    (session : SessionCalls r tests calls) (answer : Except Error Unit) (raised : Bool) :
    EngineCall.ping answer raised ∉ calls := by
  induction session with
  | nil => exact List.not_mem_nil
  | snoc _ _ shape ih =>
      obtain ⟨executions, passed, answer', raised', schedule, rfl⟩ := shape
      simp [ih, schedule.ping_not_mem]

/-- Errors of executions that do not end a run are all that a session leaves of reasons to stop. -/
theorem SessionCalls.findSome?_eq_none {r : Runner κ} {tests : List QueryTest}
    {calls : List EngineCall} (session : SessionCalls r tests calls)
    (harmless : ∀ statement e raised, EngineCall.execute statement (.error e) raised ∈ calls →
      e.abortsScenario = false) : calls.findSome? EngineCall.abortReason = none := by
  rw [List.findSome?_eq_none_iff]
  intro call member
  match call with
  | .ping answer raised => cases session.ping_not_mem answer raised member
  | .execute _ (.ok _) _ => rfl
  | .execute statement (.error e) raised =>
      simp [EngineCall.abortReason, Runner.abortOf, harmless statement e raised member]
  | .cleanup _ _ => rfl

/-- Without a call that ends it, a request to stop and an excess of time, nothing stops a run. -/
theorem not_stopCause {r : Runner κ} {engine : Engine ε} {scenario : Scenario} {began : Span}
    {interrupt : Interrupt} {calls : List EngineCall} {state : ε} {reason : AbortReason}
    (unended : calls.findSome? EngineCall.abortReason = none) (calm : interrupt.raised = false)
    (quiet : ∀ call ∈ calls, call.raised = false)
    (inTime : ∀ last, r.deadline scenario.totalQueries began = some last →
      (engine.elapsed state).nanoseconds ≤ last.nanoseconds) :
    ¬StopCause r engine scenario began interrupt calls state reason := by
  intro cause
  cases cause with
  | call ended => cases unended.symm.trans ended
  | budget deadline exceeded => exact Nat.not_lt.mpr (inTime _ deadline) exceeded
  | interrupt raised =>
      have never : calls.any EngineCall.raised = false :=
        List.any_eq_false.mpr fun call member => Bool.eq_false_iff.mp (quiet call member)
      rw [calm, never] at raised
      cases raised

/-! ## One test -/

/-- What one test changes in a run that goes on. -/
structure TestEffect (handler : Handler κ) (test : QueryTest) (calls : List EngineCall)
    (s s' : RunState (ε × List EngineCall) κ) : Prop where
  shape : TestCalls handler test calls
  received : s'.engine.2 = s.engine.2 ++ calls
  results : s'.results.map TestResult.key = s.results.map TestResult.key ++ [test.key]
  heeded : ∀ {reason}, calls.findSome? EngineCall.abortReason = some reason →
    s'.abort = some reason
  stopped : ∀ {reason}, s'.abort = some reason →
    calls.findSome? EngineCall.abortReason = some reason ∨
      reason = Runner.wasInterrupted ∧
        (s.interrupt.raised || calls.any EngineCall.raised) = true
  raised : s'.interrupt.raised = true →
    (s.interrupt.raised || calls.any EngineCall.raised) = true

namespace Handler

/-- A handler does not change whose result it is. -/
theorem key_handle (handler : Handler κ) (test : QueryTest) (result : TestResult) (state : κ) :
    (handler.handle test result state).result.key = result.key := by
  cases handler with
  | execute => rfl
  | generate writer =>
      simp only [handle, handleGenerate]
      split <;> rfl
  | counts sink =>
      simp only [handle, handleCounts]
      split
      · rfl
      · change (withMessageFailure result).key = result.key
        unfold withMessageFailure
        split <;> rfl
  | compare policy reader sink =>
      simp only [handle, handleCompare]
      split
      · rfl
      · split
        · rfl
        · split
          · rfl
          · split <;> simp [report]

end Handler

namespace Runner

variable (r : Runner κ) (engine : Engine ε) (scenario : Scenario)

theorem key_handleResult (handler : Handler κ) (test : QueryTest) (result : TestResult)
    (state : κ) : (handleResult handler test result state).1.key = result.key := by
  have settled : (settle result).key = result.key := by
    unfold settle
    split <;> rfl
  have handled := handler.key_handle test (settle result) state
  unfold handleResult
  split
  next went => rw [went] at handled; exact handled.trans settled
  next went => rw [went] at handled; exact handled.trans settled

theorem key_freshResult (test : QueryTest) (s : RunState ε κ) :
    (r.freshResult engine test s).key = test.key := by
  unfold freshResult
  simp only
  split <;> rfl

/-- The calls of a test before its cleanup. -/
theorem runTest_calls (test : QueryTest) (s : RunState (ε × List EngineCall) κ) :
    ∃ calls passed, ScheduleCalls (r.handlerFor test) test.schedule calls passed ∧
      (r.runTest engine.recorded test s).engine.2 = s.engine.2 ++ calls ∧
      (r.runTest engine.recorded test s).interrupt.raised =
        (s.interrupt.raised || calls.any EngineCall.raised) ∧
      (r.runTest engine.recorded test s).results.map TestResult.key =
        s.results.map TestResult.key ++ [test.key] ∧
      (r.runTest engine.recorded test s).abort = calls.findSome? EngineCall.abortReason := by
  obtain ⟨calls, passed, shape, extension⟩ := executeAll_calls engine (r.handlerFor test)
    test.statements ⟨s.engine, s.interrupt, r.freshResult engine.recorded test s, none⟩
  refine ⟨calls, passed, shape, extension.received, extension.raised, ?_, extension.abort rfl⟩
  have key := (key_handleResult (r.handlerFor test) test _ s.collaborators).trans
    (extension.key.trans (r.key_freshResult engine.recorded test s))
  simpa [runTest] using key

/-- Releasing what a test held is one call, and that it fails changes no more than the log. -/
theorem cleanUp_calls (test : QueryTest) (s : RunState (ε × List EngineCall) κ) :
    let call := engine.cleanup s.engine.1
    let s' := cleanUp engine.recorded test s
    s'.engine.2 = s.engine.2 ++ [.cleanup call.answer call.raised] ∧
      s'.interrupt.raised = (s.interrupt.raised || call.raised) ∧ s'.results = s.results ∧
      s'.abort = s.abort ∧ s'.collaborators = s.collaborators := by
  simp only [cleanUp, Engine.recorded]
  split <;> exact ⟨rfl, Interrupt.raised_raiseIf _ _, rfl, rfl, rfl⟩

/-- A request to stop is followed, unless the run stops for another reason. -/
theorem heedInterrupt_abort (name : String) (s : RunState ε κ) :
    (heedInterrupt name s).abort =
      s.abort.or (if s.interrupt.raised then some wasInterrupted else none) := by
  unfold heedInterrupt
  cases abort : s.abort with
  | some reason => simp [abort]
  | none => cases raised : s.interrupt.raised <;> simp [Interrupt.take, raised]

theorem heedInterrupt_kept (name : String) (s : RunState ε κ) :
    (heedInterrupt name s).engine = s.engine ∧ (heedInterrupt name s).results = s.results ∧
      (heedInterrupt name s).collaborators = s.collaborators ∧
      ((heedInterrupt name s).interrupt.raised = true → s.interrupt.raised = true) := by
  unfold heedInterrupt
  split
  · exact ⟨rfl, rfl, rfl, id⟩
  · cases raised : s.interrupt.raised <;> simp [Interrupt.take, Interrupt.clear, raised]

/-- The calls of a test and its cleanup, and what they leave of a run. A call that ends the run is
the reason to stop; without one, a request to stop is. -/
theorem afterTest_calls (test : QueryTest) (s : RunState (ε × List EngineCall) κ) :
    let s' := r.afterTest engine.recorded scenario test s
    ∃ calls, TestCalls (r.handlerFor test) test calls ∧ s'.engine.2 = s.engine.2 ++ calls ∧
      s'.results.map TestResult.key = s.results.map TestResult.key ++ [test.key] ∧
      s'.abort = (calls.findSome? EngineCall.abortReason).or
        (if s.interrupt.raised || calls.any EngineCall.raised then some wasInterrupted else none) ∧
      (s'.interrupt.raised = true →
        (s.interrupt.raised || calls.any EngineCall.raised) = true) := by
  intro s'
  obtain ⟨executions, passed, schedule, ran, ranRaised, ranResults, ranAbort⟩ :=
    r.runTest_calls engine test s
  obtain ⟨cleaned, cleanedRaised, cleanedResults, cleanedAbort, -⟩ :=
    cleanUp_calls engine test (r.runTest engine.recorded test s)
  obtain ⟨keptEngine, keptResults, -, keptRaised⟩ := heedInterrupt_kept scenario.name
    (cleanUp engine.recorded test (r.runTest engine.recorded test s))
  have abort := heedInterrupt_abort scenario.name
    (cleanUp engine.recorded test (r.runTest engine.recorded test s))
  rw [cleanedAbort, ranAbort] at abort
  let cleanup := engine.cleanup (r.runTest engine.recorded test s).engine.1
  let calls := executions ++ [EngineCall.cleanup cleanup.answer cleanup.raised]
  have reasons : calls.findSome? EngineCall.abortReason =
      executions.findSome? EngineCall.abortReason := by
    simp [calls, EngineCall.abortReason]
  have raises : (cleanUp engine.recorded test (r.runTest engine.recorded test s)).interrupt.raised =
      (s.interrupt.raised || calls.any EngineCall.raised) := by
    rw [cleanedRaised, ranRaised, Bool.or_assoc]
    simp [calls, cleanup, EngineCall.raised]
  rw [← reasons, raises] at abort
  rw [raises] at keptRaised
  refine ⟨calls, ⟨executions, passed, _, _, schedule, rfl⟩, ?_, ?_, abort, keptRaised⟩
  · exact (congrArg Prod.snd keptEngine).trans (cleaned.trans (by rw [ran, List.append_assoc]))
  · exact (congrArg (List.map TestResult.key) (keptResults.trans cleanedResults)).trans ranResults

theorem afterTest_effect (test : QueryTest) (s : RunState (ε × List EngineCall) κ) :
    ∃ calls, TestEffect (r.handlerFor test) test calls s
      (r.afterTest engine.recorded scenario test s) := by
  obtain ⟨calls, shape, received, results, abort, raised⟩ :=
    r.afterTest_calls engine scenario test s
  refine ⟨calls, shape, received, results, ?_, ?_, raised⟩
  · intro reason ended
    exact abort.trans (by rw [ended, Option.some_or])
  · intro reason stopped
    cases ended : calls.findSome? EngineCall.abortReason with
    | some other =>
        rw [ended, Option.some_or] at abort
        exact .inl (abort.symm.trans stopped)
    | none =>
        rw [ended, Option.none_or] at abort
        have heeded := abort.symm.trans stopped
        split at heeded
        next raised => exact .inr ⟨(Option.some.inj heeded).symm, raised⟩
        next => cases heeded

/-! ## All tests -/

/-- The check of the connection is one call, and gives the reason to stop if it fails. -/
theorem start_calls (state : ε) (collaborators : κ) (interrupt : Interrupt) :
    let call := engine.ping state
    let s := r.start engine.recorded scenario (state, []) collaborators interrupt
    s.engine.2 = [.ping call.answer call.raised] ∧
      s.interrupt.raised = (interrupt.raised || call.raised) ∧
      s.abort = (EngineCall.ping call.answer call.raised).abortReason := by
  refine ⟨rfl, Interrupt.raised_raiseIf _ _, ?_⟩
  simp only [start, Engine.recorded]
  cases (engine.ping state).answer <;> rfl

/-- What holds after the tests of a run with a connection. -/
structure ShapeAt (state : ε) (interrupt : Interrupt) (done : List QueryTest)
    (s : RunState (ε × List EngineCall) κ) : Prop where
  results : s.results.map TestResult.key = done.map QueryTest.key
  session : ∃ session, s.engine.2 = .ping (.ok ()) (engine.ping state).raised :: session ∧
    SessionCalls r done session
  heeded : ∀ {reason}, s.engine.2.findSome? EngineCall.abortReason = some reason →
    s.abort = some reason
  stopped : ∀ {reason}, s.abort = some reason →
    StopCause r engine scenario (engine.elapsed state) interrupt s.engine.2 s.engine.1 reason
  raised : s.interrupt.raised = true →
    (interrupt.raised || s.engine.2.any EngineCall.raised) = true

namespace ShapeAt

variable {r engine scenario} {state : ε} {interrupt : Interrupt} {done : List QueryTest}
  {s s' : RunState (ε × List EngineCall) κ}

/-- As long as a run goes on, no call ended it. -/
theorem findSome?_eq_none (h : ShapeAt r engine scenario state interrupt done s)
    (running : s.abort = none) : s.engine.2.findSome? EngineCall.abortReason = none := by
  cases ended : s.engine.2.findSome? EngineCall.abortReason with
  | none => rfl
  | some reason => cases running.symm.trans (h.heeded ended)

theorem test {test : QueryTest} {calls : List EngineCall}
    (h : ShapeAt r engine scenario state interrupt done s) (running : s.abort = none)
    (effect : TestEffect (r.handlerFor test) test calls s s') :
    ShapeAt r engine scenario state interrupt (done ++ [test]) s' := by
  have before := h.findSome?_eq_none running
  have reasons : s'.engine.2.findSome? EngineCall.abortReason =
      calls.findSome? EngineCall.abortReason := by
    rw [effect.received, List.findSome?_append, before, Option.none_or]
  have raises : (s.interrupt.raised || calls.any EngineCall.raised) = true →
      (interrupt.raised || s'.engine.2.any EngineCall.raised) = true := by
    intro raised
    rw [effect.received, List.any_append, ← Bool.or_assoc, Bool.or_eq_true]
    rcases (Bool.or_eq_true _ _).mp raised with earlier | now
    · exact .inl (h.raised earlier)
    · exact .inr now
  refine ⟨?_, ?_, ?_, ?_, fun raised => raises (effect.raised raised)⟩
  · rw [effect.results, h.results, List.map_append, List.map_singleton]
  · obtain ⟨session, received, shape⟩ := h.session
    refine ⟨session ++ calls, ?_, shape.snoc ?_ effect.shape⟩
    · rw [effect.received, received, List.cons_append]
    · rw [received] at before
      simpa [EngineCall.abortReason] using before
  · intro reason ended
    exact effect.heeded (reasons.symm.trans ended)
  · intro reason stopped
    rcases effect.stopped stopped with ended | ⟨rfl, raised⟩
    · exact .call (reasons.trans ended)
    · exact .interrupt (raises raised)

theorem late (h : ShapeAt r engine scenario state interrupt done s) (running : s.abort = none)
    (late : IsOver engine.recorded (r.deadline scenario.totalQueries (engine.elapsed state)) s) :
    ShapeAt r engine scenario state interrupt done { s with abort := some budgetExceeded } := by
  refine ⟨h.results, h.session, ?_, ?_, h.raised⟩
  · intro reason ended
    cases running.symm.trans (h.heeded ended)
  · intro reason stopped
    cases stopped
    unfold IsOver isOver at late
    cases deadline : r.deadline scenario.totalQueries (engine.elapsed state) with
    | none => simp [deadline] at late
    | some last =>
        rw [deadline, Option.any_some, decide_eq_true_eq] at late
        exact .budget deadline late

theorem invariant :
    r.Invariant engine.recorded scenario (r.deadline scenario.totalQueries (engine.elapsed state))
      (ShapeAt r engine scenario state interrupt) where
  test {_ test s} _ running _ h :=
    let ⟨_, effect⟩ := afterTest_effect r engine scenario test s
    h.test running effect
  late _ running late h := h.late running late
  opened _ h := ⟨h.results, h.session, h.heeded, h.stopped, h.raised⟩
  closed _ _ _ _ h := ⟨h.results, h.session, h.heeded, h.stopped, h.raised⟩

end ShapeAt

/-- The state at the end of a run that has a connection. -/
theorem shapeAt_finalState {state : ε} (collaborators : κ) (interrupt : Interrupt)
    (accepted : (engine.ping state).answer = .ok ()) :
    ∃ done, done <+: scenario.tests ∧
      ShapeAt r engine scenario state interrupt done
        (r.finalState engine.recorded scenario (state, []) collaborators interrupt) ∧
      ((r.finalState engine.recorded scenario (state, []) collaborators interrupt).abort = none →
        done = scenario.tests) := by
  obtain ⟨received, raises, connected⟩ :=
    r.start_calls engine scenario state collaborators interrupt
  rw [accepted] at received connected
  refine ShapeAt.invariant.finalState connected ⟨rfl, ⟨[], received, .nil⟩, ?_, ?_, ?_⟩
  · intro reason ended
    simp [received, EngineCall.abortReason] at ended
  · intro reason stopped
    cases connected.symm.trans stopped
  · intro raised
    rw [raises] at raised
    simpa [received, EngineCall.raised] using raised

/-- A run without a connection is over after its first call. -/
theorem runShape_refused {state : ε} {collaborators : κ} {interrupt : Interrupt} {e : Error}
    (refused : (engine.ping state).answer = .error e) :
    RunShape r engine scenario state interrupt
      (r.calls engine scenario state collaborators interrupt)
      (r.run engine scenario state collaborators interrupt) := by
  obtain ⟨received, -, abort⟩ := r.start_calls engine scenario state collaborators interrupt
  rw [refused] at received abort
  have final := finalState_of_not_connected fun running =>
    Option.some_ne_none _ (abort.symm.trans running)
  have calls : r.calls engine scenario state collaborators interrupt =
      [.ping (.error e) (engine.ping state).raised] :=
    (congrArg (·.engine.2) final).trans received
  have results : (r.run engine.recorded scenario (state, []) collaborators
      interrupt).report.results = [] := congrArg (·.results) final
  have stops : (r.run engine.recorded scenario (state, []) collaborators interrupt).report.abort =
      some ⟨.connection, e.message⟩ := (congrArg (·.abort) final).trans abort
  have ended : [EngineCall.ping (.error e) (engine.ping state).raised].findSome?
      EngineCall.abortReason = some ⟨.connection, e.message⟩ := rfl
  rw [run_recorded, calls]
  refine ⟨rfl, by simp [results], fun none => ?_, fun answer => ?_, fun accepted => ?_,
    fun reason => ?_, fun reason => ?_, fun accepted => ?_⟩
  · cases stops.symm.trans none
  · cases refused.symm.trans answer
    exact ⟨rfl, results, stops⟩
  · cases refused.symm.trans accepted
  · exact stops.trans (ended.symm.trans reason)
  · cases stops.symm.trans reason
    exact .call ended
  · cases refused.symm.trans accepted

/-- A run with a connection takes tests in their order until something stops it. -/
theorem runShape_connected {state : ε} {collaborators : κ} {interrupt : Interrupt}
    (accepted : (engine.ping state).answer = .ok ()) :
    RunShape r engine scenario state interrupt
      (r.calls engine scenario state collaborators interrupt)
      (r.run engine scenario state collaborators interrupt) := by
  obtain ⟨done, first, h, all⟩ :=
    r.shapeAt_finalState engine scenario collaborators interrupt accepted
  have count : (r.run engine.recorded scenario (state, []) collaborators
      interrupt).report.results.length = done.length := by
    have length := congrArg List.length h.results
    rw [List.length_map, List.length_map] at length
    exact length
  have ran : scenario.tests.take done.length = done := (List.prefix_iff_eq_take.mp first).symm
  have complete : (r.run engine.recorded scenario (state, []) collaborators
      interrupt).report.abort = none → done.length = scenario.tests.length :=
    fun none => congrArg List.length (all none)
  rw [run_recorded]
  refine ⟨rfl, ?_, fun none => count.trans (complete none), fun refused => ?_, fun _ => ?_,
    h.heeded, h.stopped, fun _ harmless calm quiet inTime => ?_⟩
  · rw [count, ran]
    exact h.results
  · cases accepted.symm.trans refused
  · rw [count, ran]
    exact h.session
  · refine count.trans (complete ?_)
    cases stopped : (r.run engine.recorded scenario (state, []) collaborators
        interrupt).report.abort with
    | none => rfl
    | some reason =>
        obtain ⟨session, received, shape⟩ := h.session
        have among : ∀ call ∈ session,
            call ∈ r.calls engine scenario state collaborators interrupt := by
          intro call member
          have later := List.mem_cons_of_mem (.ping (.ok ()) (engine.ping state).raised) member
          rw [← received] at later
          exact later
        have unended := shape.findSome?_eq_none fun statement e raised member =>
          harmless statement e raised (among _ member)
        refine absurd (h.stopped stopped) (not_stopCause ?_ calm quiet inTime)
        rw [received, List.findSome?_cons]
        exact unended

end Runner
end QueryRegression
