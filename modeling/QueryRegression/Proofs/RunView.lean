import QueryRegression.Run.Runner

/-!
# Runs under a view of their state

One engine may keep more in its state than another, and so may collaborators. A view forgets what
the one keeps beyond the other. If every single call agrees under a view, whole runs do:

* `Engine.IsViewOf` and `Runner.IsViewOf`: every call of an engine, or of the collaborators of a
  runner, is the view of the corresponding call.
* `Runner.run_view`: then a run is the view of the corresponding run.
-/

namespace QueryRegression

variable {α ε ε' κ κ' : Type}

/-! ## Views -/

/-- The call with a view of the state that it left behind. -/
def Call.view (f : ε' → ε) (c : Call ε' α) : Call ε α := ⟨c.answer, f c.state, c.raised⟩

/-- The end of a test with a view of the state that it left behind. -/
def Handled.view (g : κ' → κ) (h : Handled κ') : Handled κ := ⟨h.answer, h.result, g h.state⟩

/-- The state of a test under a view of the engine. -/
def TestState.view (f : ε' → ε) (s : TestState ε') : TestState ε :=
  ⟨f s.engine, s.interrupt, s.result, s.abort⟩

/-- The state of a run under views of the engine and of the collaborators. -/
def RunState.view (f : ε' → ε) (g : κ' → κ) (s : RunState ε' κ') : RunState ε κ :=
  ⟨f s.engine, g s.collaborators, s.interrupt, s.summary, s.results, s.log, s.abort⟩

/-- A run under views of the engine and of the collaborators. -/
def Run.view (f : ε' → ε) (g : κ' → κ) (run : Run ε' κ') : Run ε κ :=
  ⟨run.report, f run.engine, g run.collaborators, run.interrupt, run.log⟩

/-- An engine whose calls are those of another one under a view. -/
structure Engine.IsViewOf (engine : Engine ε) (engine' : Engine ε') (f : ε' → ε) : Prop where
  ping : ∀ s, engine.ping (f s) = (engine'.ping s).view f
  execute : ∀ statement s, engine.execute statement (f s) = (engine'.execute statement s).view f
  cleanup : ∀ s, engine.cleanup (f s) = (engine'.cleanup s).view f
  elapsed : ∀ s, engine.elapsed (f s) = engine'.elapsed s
  now : ∀ s, engine.now (f s) = engine'.now s

/-- A handler that acts like another one under a view. -/
structure Handler.IsViewOf (handler : Handler κ) (handler' : Handler κ') (g : κ' → κ) : Prop where
  mode : handler.mode = handler'.mode
  checkExecution : ∀ statement outcome,
    handler.checkExecution statement outcome = handler'.checkExecution statement outcome
  handle : ∀ test result state,
    handler.handle test result (g state) = (handler'.handle test result state).view g

/-- A runner whose handlers act like those of another one under a view. -/
structure Runner.IsViewOf (r : Runner κ) (r' : Runner κ') (g : κ' → κ) : Prop where
  handler : r.handler.IsViewOf r'.handler g
  counts : (Handler.counts r.sink).IsViewOf (.counts r'.sink) g
  timeForOneQuery : r.timeForOneQuery = r'.timeForOneQuery

theorem Engine.IsViewOf.refl (engine : Engine ε) : engine.IsViewOf engine id :=
  ⟨fun _ => rfl, fun _ _ => rfl, fun _ => rfl, fun _ => rfl, fun _ => rfl⟩

theorem Handler.IsViewOf.refl (handler : Handler κ) : handler.IsViewOf handler id :=
  ⟨rfl, fun _ _ => rfl, fun _ _ _ => rfl⟩

theorem Runner.IsViewOf.refl (r : Runner κ) : r.IsViewOf r id :=
  ⟨.refl _, .refl _, rfl⟩

namespace Runner

variable {f : ε' → ε} {g : κ' → κ} {engine : Engine ε} {engine' : Engine ε'}
  {handler : Handler κ} {handler' : Handler κ'} {r : Runner κ} {r' : Runner κ'}
  (scenario : Scenario)

/-! ## One test -/

theorem executeOnce_view (e : engine.IsViewOf engine' f) (h : handler.IsViewOf handler' g)
    (statement : Statement) (s : TestState ε') :
    executeOnce engine handler statement (s.view f) =
      (executeOnce engine' handler' statement s).view f := by
  unfold executeOnce
  simp only [TestState.view, e.execute, Call.view]
  cases (engine'.execute statement s.engine).answer with
  | error error => rfl
  | ok outcome => simp only [recordOutcome, h.checkExecution]

theorem executeTimes_view (e : engine.IsViewOf engine' f) (h : handler.IsViewOf handler' g)
    (statement : Statement) (n : Nat) (s : TestState ε') :
    executeTimes engine handler statement n (s.view f) =
      (executeTimes engine' handler' statement n s).map id (TestState.view f) := by
  induction n generalizing s with
  | zero => rfl
  | succ n ih =>
      have result : ((executeOnce engine' handler' statement s).view f).result =
          (executeOnce engine' handler' statement s).result := rfl
      simp only [executeTimes, executeOnce_view e h, result]
      split
      · exact ih _
      · rfl

theorem executeAll_view (e : engine.IsViewOf engine' f) (h : handler.IsViewOf handler' g)
    (statements : List Statement) (s : TestState ε') :
    executeAll engine handler statements (s.view f) =
      (executeAll engine' handler' statements s).view f := by
  induction statements generalizing s with
  | nil => rfl
  | cons statement rest ih =>
      have times := executeTimes_view e h statement statement.runTimes
        { s with result := { s.result with sql := statement.sql } }
      change executeTimes engine handler statement statement.runTimes
        { s.view f with result := { s.result with sql := statement.sql } } = _ at times
      simp only [executeAll]
      rw [show (s.view f).result = s.result from rfl, times]
      cases executeTimes engine' handler' statement statement.runTimes
          { s with result := { s.result with sql := statement.sql } } with
      | mk passed s' =>
          cases passed with
          | true => exact ih s'
          | false => rfl

theorem handleResult_view (h : handler.IsViewOf handler' g) (test : QueryTest)
    (result : TestResult) (state : κ') :
    handleResult handler test result (g state) =
      (handleResult handler' test result state).map id (Prod.map g id) := by
  unfold handleResult
  rw [h.handle]
  obtain ⟨answer, handled, left⟩ := handler'.handle test (settle result) state
  cases answer <;> rfl

theorem IsViewOf.overridesMode (h : r.IsViewOf r' g) (test : QueryTest) :
    r.overridesMode test = r'.overridesMode test := by
  unfold Runner.overridesMode Runner.mode
  rw [h.handler.mode]

theorem IsViewOf.handlerFor (h : r.IsViewOf r' g) (test : QueryTest) :
    (r.handlerFor test).IsViewOf (r'.handlerFor test) g := by
  unfold Runner.handlerFor
  rw [h.overridesMode]
  cases r'.overridesMode test with
  | true => exact h.counts
  | false => exact h.handler

theorem runTest_view (e : engine.IsViewOf engine' f) (h : r.IsViewOf r' g) (test : QueryTest)
    (s : RunState ε' κ') :
    r.runTest engine test (s.view f g) = (r'.runTest engine' test s).view f g := by
  have fresh : r.freshResult engine test (s.view f g) = r'.freshResult engine' test s := by
    simp only [freshResult, RunState.view, e.now, mode, h.handler.mode, h.overridesMode]
  have lines : r.openingLines test = r'.openingLines test := by
    unfold openingLines
    rw [h.overridesMode]
  have all := executeAll_view e (h.handlerFor test) test.statements
    ⟨s.engine, s.interrupt, r'.freshResult engine' test s, none⟩
  simp only [TestState.view] at all
  unfold runTest
  simp only [fresh, lines]
  simp only [RunState.view, all, handleResult_view (h.handlerFor test), e.now]
  rfl

theorem cleanUp_view (e : engine.IsViewOf engine' f) (test : QueryTest) (s : RunState ε' κ') :
    cleanUp engine test (s.view f g) = (cleanUp engine' test s).view f g := by
  unfold cleanUp
  simp only [RunState.view, e.cleanup, Call.view]
  cases (engine'.cleanup s.engine).answer <;> rfl

theorem heedInterrupt_view (name : String) (s : RunState ε' κ') :
    heedInterrupt name (s.view f g) = (heedInterrupt name s).view f g := by
  have abort : (s.view f g).abort = s.abort := rfl
  have interrupt : (s.view f g).interrupt = s.interrupt := rfl
  unfold heedInterrupt
  rw [abort, interrupt]
  split
  · rfl
  · cases s.interrupt.take with
    | mk raised interrupt => cases raised <;> rfl

/-! ## All tests -/

theorem isOver_view (e : engine.IsViewOf engine' f) (deadline : Option Span) (s : RunState ε' κ') :
    isOver engine deadline (s.view f g) = isOver engine' deadline s := by
  simp only [isOver, RunState.view, e.elapsed]

theorem runTests_view (e : engine.IsViewOf engine' f) (h : r.IsViewOf r' g) (deadline : Option Span)
    (tests : List QueryTest) (s : RunState ε' κ') :
    r.runTests engine scenario deadline tests (s.view f g) =
      (r'.runTests engine' scenario deadline tests s).view f g := by
  induction tests generalizing s with
  | nil => rfl
  | cons test rest ih =>
      have stopped : ∀ s' : RunState ε' κ', (s'.view f g).abort = s'.abort := fun _ => rfl
      simp only [runTests, isOver_view e, runTest_view e h, cleanUp_view e, heedInterrupt_view,
        stopped]
      split
      · rfl
      · split
        · rfl
        · exact ih _

theorem runSet_view (e : engine.IsViewOf engine' f) (h : r.IsViewOf r' g) (deadline : Option Span)
    (set : QuerySet) (s : RunState ε' κ') :
    r.runSet engine scenario deadline set (s.view f g) =
      (r'.runSet engine' scenario deadline set s).view f g := by
  have tests := runTests_view scenario e h deadline set.tests
    { s with log := s.log ++ [⟨.info, "Start TestResult: QuerySetID [" ++ set.name ++ "]"⟩] }
  unfold RunState.view at tests
  simp only [runSet, RunState.view, tests, e.now]

theorem runSets_view (e : engine.IsViewOf engine' f) (h : r.IsViewOf r' g) (deadline : Option Span)
    (sets : List QuerySet) (s : RunState ε' κ') :
    r.runSets engine scenario deadline sets (s.view f g) =
      (r'.runSets engine' scenario deadline sets s).view f g := by
  induction sets generalizing s with
  | nil => rfl
  | cons set rest ih =>
      have stopped : (s.view f g).abort = s.abort := rfl
      simp only [runSets, runSet_view scenario e h, stopped]
      split
      · rfl
      · exact ih _

/-- A run is the view of the run in which engine and collaborators keep more. -/
theorem run_view (e : engine.IsViewOf engine' f) (h : r.IsViewOf r' g) (state : ε')
    (collaborators : κ') (interrupt : Interrupt) :
    r.run engine scenario (f state) (g collaborators) interrupt =
      (r'.run engine' scenario state collaborators interrupt).view f g := by
  have started : r.start engine scenario (f state) (g collaborators) interrupt =
      (r'.start engine' scenario state collaborators interrupt).view f g := by
    have lines : r.startLines scenario = r'.startLines scenario := by
      unfold startLines
      rw [h.timeForOneQuery]
    simp only [start, e.ping, Call.view, RunState.view, lines]
  have deadline : r.deadline scenario.totalQueries (engine.elapsed (f state)) =
      r'.deadline scenario.totalQueries (engine'.elapsed state) := by
    unfold Runner.deadline budget
    rw [h.timeForOneQuery, e.elapsed]
  have sets := runSets_view scenario e h
    (r'.deadline scenario.totalQueries (engine'.elapsed state)) scenario.querySets
    (r'.start engine' scenario state collaborators interrupt)
  simp only [run, started, deadline, sets, e.now]
  simp only [RunState.view, e.now]
  rfl

end Runner
end QueryRegression
