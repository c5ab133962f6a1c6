import QueryRegression.Proofs.EngineCalls

/-!
# The calls of one test

A test asks the engine for its statements in their order, each as often as it is to be run, up to
the first execution that does not go well. `ScheduleCalls` describes these calls, and
`Runner.executeAll_calls` says that a test makes no others.
-/

namespace QueryRegression

/-! ## Keys -/

/-- The query set and the query of a test. -/
def QueryTest.key (t : QueryTest) : String × String := (t.querySet, t.query)

/-- The statements of a test in their order, each as often as it is to be run. -/
def QueryTest.schedule (t : QueryTest) : List Statement :=
  t.statements.flatMap fun statement => List.replicate statement.runTimes statement

namespace TestResult

/-- The query set and the query of a result. -/
def key (r : TestResult) : String × String := (r.querySet, r.query)

@[simp] theorem key_record (r : TestResult) (outcome : Outcome) :
    (r.record outcome).key = r.key := by
  cases outcome <;> rfl

@[simp] theorem key_fail (r : TestResult) (failure : Failure) : (r.fail failure).key = r.key := rfl

@[simp] theorem key_finish (r : TestResult) (ended : Instant) : (r.finish ended).key = r.key := rfl

@[simp] theorem key_applyComparison (r : TestResult) (c : Comparison) :
    (r.applyComparison c).key = r.key := by
  have verdict : (r.applyVerdict c).key = r.key := by
    unfold applyVerdict
    split <;> rfl
  unfold applyComparison
  split
  · exact verdict
  · exact verdict

end TestResult

/-! ## What a call means for the run -/

/-- The reason to stop that a call gives: a connection that is refused, or an execution with an
error that ends the run. -/
def EngineCall.abortReason : EngineCall → Option AbortReason
  | .ping (.error e) _ => some ⟨.connection, e.message⟩
  | .execute _ (.error e) _ => Runner.abortOf e
  | _ => none

/-- An execution goes well if its answer is a table with the declared counts, where these are
checked. -/
def Handler.GoesWell {κ : Type} (handler : Handler κ) (statement : Statement)
    (answer : Except Error Outcome) : Prop :=
  ∃ t, answer = .ok (.table t) ∧ handler.checkExecution statement (.table t) = none

theorem Handler.GoesWell.abortReason_eq_none {κ : Type} {handler : Handler κ}
    {statement : Statement} {answer : Except Error Outcome}
    (well : handler.GoesWell statement answer) (raised : Bool) :
    (EngineCall.execute statement answer raised).abortReason = none := by
  obtain ⟨t, rfl, -⟩ := well
  rfl

/-- Executions of a schedule in its order, up to the first that does not go well; whether all went
well. -/
inductive ScheduleCalls {κ : Type} (handler : Handler κ) :
    List Statement → List EngineCall → Bool → Prop
  | nil : ScheduleCalls handler [] [] true
  | last {statement answer raised rest} : ¬handler.GoesWell statement answer →
      ScheduleCalls handler (statement :: rest) [.execute statement answer raised] false
  | cons {statement answer raised rest calls passed} : handler.GoesWell statement answer →
      ScheduleCalls handler rest calls passed →
      ScheduleCalls handler (statement :: rest) (.execute statement answer raised :: calls) passed

namespace ScheduleCalls

variable {κ : Type} {handler : Handler κ} {first rest : List Statement}
  {calls more : List EngineCall} {passed : Bool}

theorem append (before : ScheduleCalls handler first calls true)
    (after : ScheduleCalls handler rest more passed) :
    ScheduleCalls handler (first ++ rest) (calls ++ more) passed := by
  generalize all : true = went at before
  induction before with
  | nil => exact after
  | last => cases all
  | cons well _ ih => exact cons well (ih all)

theorem stop (before : ScheduleCalls handler first calls false) :
    ScheduleCalls handler (first ++ rest) calls false := by
  generalize some : false = went at before
  induction before with
  | nil => cases some
  | last badly => exact last badly
  | cons well _ ih => exact cons well (ih some)

/-- Executions that go well do not end the run. -/
theorem abortReason_eq_none (all : ScheduleCalls handler rest calls true) :
    calls.findSome? EngineCall.abortReason = none := by
  generalize went : true = passed at all
  induction all with
  | nil => rfl
  | last => cases went
  | cons well _ ih =>
      rw [List.findSome?_cons, well.abortReason_eq_none]
      exact ih went

theorem ping_not_mem (schedule : ScheduleCalls handler rest calls passed)
    (answer : Except Error Unit) (raised : Bool) : EngineCall.ping answer raised ∉ calls := by
  induction schedule with
  | nil => exact List.not_mem_nil
  | last => simp
  | cons _ _ ih => simpa using ih

end ScheduleCalls

/-! ## The state after some calls -/

variable {ε κ : Type}

/-- What some calls leave behind in the state of a test. -/
structure TestState.Extends (calls : List EngineCall)
    (s s' : TestState (ε × List EngineCall)) : Prop where
  received : s'.engine.2 = s.engine.2 ++ calls
  raised : s'.interrupt.raised = (s.interrupt.raised || calls.any EngineCall.raised)
  key : s'.result.key = s.result.key
  abort : s.abort = none → s'.abort = calls.findSome? EngineCall.abortReason

theorem Interrupt.raised_raiseIf (i : Interrupt) (raised : Bool) :
    (i.raiseIf raised).raised = (i.raised || raised) := by
  cases raised <;> simp [raiseIf, raise]

namespace TestState.Extends

variable {s s' s'' : TestState (ε × List EngineCall)} {calls more : List EngineCall}

theorem refl (s : TestState (ε × List EngineCall)) : Extends [] s s :=
  ⟨by simp, by simp, rfl, fun running => running⟩

theorem trans (before : Extends calls s s') (well : calls.findSome? EngineCall.abortReason = none)
    (after : Extends more s' s'') : Extends (calls ++ more) s s'' where
  received := by rw [after.received, before.received, List.append_assoc]
  raised := by rw [after.raised, before.raised, List.any_append, Bool.or_assoc]
  key := after.key.trans before.key
  abort running := by
    rw [List.findSome?_append, well, Option.none_or]
    exact after.abort ((before.abort running).trans well)

end TestState.Extends

namespace Runner

variable (engine : Engine ε) (handler : Handler κ)

/-- Running a statement once is one call. -/
theorem executeOnce_extends (statement : Statement) (s : TestState (ε × List EngineCall)) :
    let call := engine.execute statement s.engine.1
    TestState.Extends [.execute statement call.answer call.raised] s
      (executeOnce engine.recorded handler statement s) := by
  unfold executeOnce
  simp only [Engine.recorded]
  cases answer : (engine.execute statement s.engine.1).answer with
  | ok outcome =>
      refine ⟨rfl, ?_, ?_, fun running => running⟩
      · simp [Interrupt.raised_raiseIf, EngineCall.raised]
      · change (recordOutcome handler statement s.result outcome).key = s.result.key
        unfold recordOutcome
        split <;> simp
  | error e =>
      refine ⟨rfl, ?_, rfl, fun _ => ?_⟩
      · simp [Interrupt.raised_raiseIf, EngineCall.raised]
      · simp [EngineCall.abortReason]

/-- The result of a test is a success as long as its executions go well. -/
theorem isSuccess_executeOnce_iff (statement : Statement) (s : TestState (ε × List EngineCall)) :
    (executeOnce engine.recorded handler statement s).result.isSuccess = true ↔
      handler.GoesWell statement (engine.execute statement s.engine.1).answer := by
  unfold executeOnce
  simp only [Engine.recorded, Handler.GoesWell]
  cases (engine.execute statement s.engine.1).answer with
  | error e => simp [failExecution, TestResult.fail, TestResult.isSuccess, TestStatus.isSuccess]
  | ok outcome =>
      cases outcome with
      | exception e =>
          simp only [recordOutcome]
          split <;>
            simp [TestResult.fail, TestResult.record, TestResult.isSuccess, TestStatus.isSuccess]
      | table t =>
          simp only [recordOutcome]
          split
          next none =>
            simp [TestResult.record, TestResult.isSuccess, TestStatus.isSuccess, none]
          next failure some =>
            simp [TestResult.fail, TestResult.isSuccess, TestStatus.isSuccess, some]

theorem executeTimes_calls (statement : Statement) (n : Nat)
    (s : TestState (ε × List EngineCall)) :
    ∃ calls, ScheduleCalls handler (List.replicate n statement) calls
        (executeTimes engine.recorded handler statement n s).1 ∧
      TestState.Extends calls s (executeTimes engine.recorded handler statement n s).2 := by
  induction n generalizing s with
  | zero => exact ⟨[], .nil, .refl s⟩
  | succ n ih =>
      have once := executeOnce_extends engine handler statement s
      have success := isSuccess_executeOnce_iff engine handler statement s
      rw [List.replicate_succ, executeTimes]
      split
      next succeeded =>
        have well := success.mp succeeded
        obtain ⟨calls, shape, extension⟩ := ih (executeOnce engine.recorded handler statement s)
        have goesOn := well.abortReason_eq_none (engine.execute statement s.engine.1).raised
        exact ⟨_, .cons well shape, once.trans (by simp [goesOn]) extension⟩
      next failed => exact ⟨_, .last (mt success.mpr failed), once⟩

/-- A test makes the calls of its schedule. -/
theorem executeAll_calls (statements : List Statement) (s : TestState (ε × List EngineCall)) :
    ∃ calls passed, ScheduleCalls handler
        (statements.flatMap fun statement => List.replicate statement.runTimes statement)
        calls passed ∧
      TestState.Extends calls s (executeAll engine.recorded handler statements s) := by
  induction statements generalizing s with
  | nil => exact ⟨[], true, .nil, .refl s⟩
  | cons statement rest ih =>
      obtain ⟨calls, shape, extension⟩ := executeTimes_calls engine handler statement
        statement.runTimes { s with result := { s.result with sql := statement.sql } }
      rw [List.flatMap_cons, executeAll]
      split
      next s' went =>
        rw [went] at shape extension
        obtain ⟨more, passed, shape', extension'⟩ := ih s'
        refine ⟨calls ++ more, passed, shape.append shape', ?_⟩
        exact TestState.Extends.trans ⟨extension.received, extension.raised, extension.key,
          extension.abort⟩ shape.abortReason_eq_none extension'
      next s' went =>
        rw [went] at shape extension
        exact ⟨calls, false, shape.stop,
          ⟨extension.received, extension.raised, extension.key, extension.abort⟩⟩

end Runner
end QueryRegression
