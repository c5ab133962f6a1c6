import QueryRegression.Proofs.ResultConsistency

/-!
# What a pass means

A test that is compared passes only if the engine answered an outcome, the source of expected
outcomes answered another one, and the comparison of the two is a pass (`Runner.run_passed`). The
one exception is a test that has nothing to execute: it passes, and no one is asked
(`Runner.passed_without_comparison`).
-/

namespace QueryRegression

variable {ε κ : Type}

/-- The outcome of a test was compared with an expected one, and the comparison is a pass. -/
structure PassedBy (policy : Policy) (trace : TestTrace) (actual expected : Outcome)
    (comparison : Comparison) : Prop where
  executed : ∃ statement raised, .execute statement (.ok actual) raised ∈ trace.calls
  outcome : trace.result.outcome = some actual
  asked : .expect trace.test (.ok expected) ∈ trace.asked
  compared : policy.compare actual expected trace.test.isOrdered = .ok comparison
  pass : comparison.isPass = true

/-- Nothing was executed, because there is nothing to execute, and no one was asked. -/
structure PassedIdle (trace : TestTrace) : Prop where
  schedule : trace.test.schedule = []
  executed : ∀ statement answer raised, .execute statement answer raised ∉ trace.calls
  outcome : trace.result.outcome = none
  asked : trace.asked = []

/-! ## One test -/

section Test

variable {handler : Handler κ} {test : QueryTest} {before result : TestResult}
  {calls : List EngineCall} {asked : List CollaboratorCall}

/-- The outcome of a result is what the engine answered last. -/
theorem Executed.exists_of_outcome {first : TestResult} (fresh : first.outcome = none)
    (executed : Executed handler first calls result) {actual : Outcome}
    (outcome : result.outcome = some actual) :
    ∃ statement raised, .execute statement (.ok actual) raised ∈ calls := by
  cases executed with
  | idle => cases fresh.symm.trans outcome
  | @last _ statement answer raised _ _ =>
      rw [outcome_recordAnswer] at outcome
      cases answer with
      | error e => cases outcome
      | ok given =>
          cases outcome
          exact ⟨statement, raised, List.mem_append_right _ (List.mem_singleton.mpr rfl)⟩

/-- A test that has not failed and has no outcome was not executed. -/
theorem Executed.eq_nil_of_success {testId : String} {begun : Instant} {mode : ResultMode}
    (executed : Executed handler (.fresh testId begun test mode) calls result)
    (none : result.outcome = none) (success : (Runner.settle result).isSuccess = true) :
    calls = [] := by
  cases executed with
  | idle => rfl
  | @last _ statement answer _ _ _ =>
      rw [outcome_recordAnswer] at none
      cases answer with
      | error e => cases success
      | ok given => cases none

/-- Where no execution was made, none was planned: the first one is made in any case. -/
theorem ScheduleCalls.eq_nil {schedule : List Statement} {passed : Bool}
    (planned : ScheduleCalls handler schedule [] passed) : schedule = [] := by
  cases planned
  rfl

/-- Where an outcome is to be compared, a success is that of a comparison, or there is neither an
outcome nor anything to tell. -/
theorem Handling.passed {policy : Policy} {reader : Reader κ} {sink : Sink κ}
    (handling : Handling test before (.compare policy reader sink) asked result)
    (h : before.Prepared .compare) (success : result.isSuccess = true) :
    (before.outcome = none ∧ before.isSuccess = true ∧ result.outcome = none ∧ asked = []) ∨
      ∃ actual expected comparison, before.outcome = some actual ∧ result.outcome = some actual ∧
        .expect test (.ok expected) ∈ asked ∧
        policy.compare actual expected test.isOrdered = .ok comparison ∧
        comparison.isPass = true := by
  cases handling with
  | unanswered none told =>
      rw [TestResult.isSuccess_unlessRefused, Bool.and_eq_true] at success
      obtain ⟨-, empty, -⟩ := h.consistent.passed success.2
      obtain ⟨silent, -⟩ := told.eq_nil empty
      exact .inl ⟨none, success.2, (before.unlessRefused_keeps _).2.trans none, silent⟩
  | unexpected => cases success
  | incomparable => cases success
  | @matched _ _ _ actual _ expected comparison some answered compared =>
      rw [TestResult.isSuccess_applyComparison] at success
      exact .inr ⟨actual, expected, comparison, some,
        (before.applyComparison_keeps comparison).2.trans some, List.mem_singleton.mpr rfl,
        compared, success⟩
  | mismatched some answered compared failed told =>
      obtain ⟨status, -, -⟩ := TestResult.applyComparison_of_failed (r := before) failed
      rw [TestResult.isSuccess_unlessRefused, TestResult.isSuccess, status] at success
      cases (Bool.and_eq_true _ _).mp success |>.2

end Test

namespace Runner

variable (r : Runner κ) (engine : Engine ε) (scenario : Scenario)

/-- A test that is compared passes by a comparison of what the engine answered with what was
expected, unless there was nothing to execute. -/
theorem run_passed {policy : Policy} {reader : Reader κ} {sink : Sink κ} (state : ε)
    (collaborators : κ) (interrupt : Interrupt)
    (comparing : r.handler = .compare policy reader sink) :
    ∃ traces, RunTraces r engine scenario state collaborators interrupt traces ∧
      ∀ trace ∈ traces, trace.result.mode = .compare → trace.result.isSuccess = true →
        PassedIdle trace ∨
          ∃ actual expected comparison, PassedBy policy trace actual expected comparison := by
  obtain ⟨traces, h⟩ := r.run_traces engine scenario state collaborators interrupt
  refine ⟨traces, h, fun trace member mode success => ?_⟩
  cases h.each trace member with
  | intro test executions before handled schedule executed handling =>
      have prepared := executed.prepared
      have inMode := prepared.mode.symm.trans (handling.keeps.1.symm.trans mode)
      have keeps : r.overridesMode test = false := by
        cases overrides : r.overridesMode test with
        | false => rfl
        | true => rw [handlerFor, overrides] at inMode; cases inMode
      have handler : r.handlerFor test = .compare policy reader sink := by
        rw [handlerFor, keeps, ← comparing]
        rfl
      rw [handler] at schedule executed handling prepared
      rcases handling.passed prepared success with
        ⟨none, passed, result, silent⟩ |
          ⟨actual, expected, comparison, some, outcome, answered, compared, pass⟩
      · rw [settle_outcome] at none
        have idle := executed.eq_nil_of_success none passed
        subst idle
        refine .inl ⟨schedule.eq_nil, ?_, result, silent⟩
        intro statement answer asked
        simp
      · rw [settle_outcome] at some
        obtain ⟨statement, asked, called⟩ := executed.exists_of_outcome rfl some
        exact .inr ⟨actual, expected, comparison,
          ⟨statement, asked, List.mem_append_left _ called⟩, outcome, answered, compared, pass⟩

/-- The expected table, another one, and no statement at all. -/
theorem run_passed_three_tests :
    let scenario : Scenario := ⟨"regression", [⟨"people",
      [.ofSql "people" "all" "SELECT name FROM people",
        .ofSql "people" "some" "SELECT name FROM people WHERE id = 1",
        ⟨"people", "nothing", []⟩]⟩]⟩
    let bob : Table := ⟨["name"], ["varchar"], [[.text "bob"]], none, 1⟩
    let ann : Table := ⟨["name"], ["varchar"], [[.text "ann"]], none, 1⟩
    let store : OutcomeStore :=
      ⟨[(("people", "all"), .table bob), (("people", "some"), .table ann)]⟩
    let sink : Sink (OutcomeStore × List String) :=
      { report := fun result _ s => ⟨.ok (), s.1, s.2 ++ [result.query]⟩ }
    let r := comparing .exact sink
    let outcomes : List Outcome := [.table bob, .table bob]
    (r.run replaying scenario outcomes (store, []) .new).report.results.map TestResult.isSuccess =
        [true, false, true] ∧
      ∃ traces, RunTraces r replaying scenario outcomes (store, []) .new traces ∧
        ∀ trace ∈ traces, trace.result.mode = .compare → trace.result.isSuccess = true →
          PassedIdle trace ∨
            ∃ actual expected comparison, PassedBy .exact trace actual expected comparison := by
  intro scenario bob ann store sink r outcomes
  exact ⟨by decide +kernel, run_passed r replaying scenario outcomes (store, []) .new rfl⟩

/-- A test without statements and one whose statement is to be run no times pass, although nothing
is executed, nothing is expected, and so nothing is compared. -/
theorem passed_without_comparison :
    let scenario : Scenario := ⟨"regression", [⟨"people",
      [⟨"people", "nothing", []⟩, ⟨"people", "never", [⟨"SELECT 1", 0, none, none⟩]⟩]⟩]⟩
    let r := comparing .exact { report := fun _ _ s => ⟨.ok (), s⟩ }
    let collaborators : OutcomeStore × Unit := (.empty, ())
    (r.run replaying scenario [] collaborators .new).report.results.map
        (fun result => (result.mode, result.isSuccess, result.outcome)) =
          [(.compare, true, none), (.compare, true, none)] ∧
      r.calls replaying scenario [] collaborators .new =
        [.ping (.ok ()) false, .cleanup (.ok ()) false, .cleanup (.ok ()) false] ∧
      r.collaboratorCalls replaying scenario [] collaborators .new = [] := by
  decide +kernel

end Runner
end QueryRegression
