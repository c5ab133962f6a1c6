import QueryRegression.Proofs.ComparisonVerdict
import QueryRegression.Proofs.GenerateThenCompare
import QueryRegression.Proofs.TestTrace

/-!
# The consistency of results

The executions of a test, the handler of its mode and the runner write the status of its result, the
message, the failures and the complaint about the time one by one. `TestResult.Consistent` says how
these belong together in the end.

* `Executed.prepared`: what executions hand to a handler.
* `Handling.consistent`: whatever a handler makes of that, and whoever refuses, is consistent.
* `Runner.consistent_of_mem_results`: so every result of every run is consistent.
-/

namespace QueryRegression

variable {ε κ : Type}

namespace TestResult

/-- How the parts of a result belong together. -/
structure Consistent (r : TestResult) : Prop where
  ran : r.status ≠ .preRun
  passed : r.isSuccess = true →
    r.failureMessage = none ∧ r.failures = [] ∧ r.timeExceeded = none
  failed : r.isSuccess = false → r.failureMessage.isSome = true
  found : r.failures ≠ [] → r.status = .exception
  few : r.failures.length ≤ 2000
  expected : r.status = .expectedException →
    r.mode = .compare ∧ ∃ e, r.outcome = some (.exception e)
  late : r.status = .timeExceeded → r.mode = .compare ∧ r.failures = [] ∧
    r.timeExceeded.isSome = true ∧ r.timeExceeded = r.failureMessage

variable {r : TestResult}

theorem consistent_of_success (status : r.status = .success) (message : r.failureMessage = none)
    (failures : r.failures = []) (timely : r.timeExceeded = none) : r.Consistent := by
  refine ⟨?_, fun _ => ⟨message, failures, timely⟩, ?_, fun some => absurd failures some, ?_, ?_,
    ?_⟩
  · rw [status]
    intro other
    cases other
  · rw [isSuccess, status]
    intro other
    cases other
  · rw [failures]
    exact Nat.zero_le _
  · rw [status]
    intro other
    cases other
  · rw [status]
    intro other
    cases other

theorem consistent_of_exception (status : r.status = .exception)
    (message : r.failureMessage.isSome = true) (few : r.failures.length ≤ 2000) :
    r.Consistent := by
  refine ⟨?_, ?_, fun _ => message, fun _ => status, few, ?_, ?_⟩
  · rw [status]
    intro other
    cases other
  · rw [isSuccess, status]
    intro other
    cases other
  · rw [status]
    intro other
    cases other
  · rw [status]
    intro other
    cases other

/-- A failure that takes the place of all before leaves nothing else to agree with. -/
theorem consistent_fail (r : TestResult) (failure : Failure) : (r.fail failure).Consistent :=
  consistent_of_exception rfl rfl (Nat.le_of_ble_eq_true rfl)

theorem Consistent.unlessRefused (h : r.Consistent) (answer : Except Error Unit) :
    (r.unlessRefused answer).Consistent := by
  cases answer with
  | ok _ => exact h
  | error e => exact consistent_fail r _

theorem Consistent.finish (h : r.Consistent) (ended : Instant) : (r.finish ended).Consistent :=
  ⟨h.ran, h.passed, h.failed, h.found, h.few, h.expected, h.late⟩

/-- What a handler may rely on. -/
structure Prepared (mode : ResultMode) (r : TestResult) : Prop where
  mode : r.mode = mode
  consistent : r.Consistent
  status : r.status = .success ∨ r.status = .exception
  timely : r.timeExceeded = none
  /-- What failed without a failure is an exception that the engine raised. -/
  raised : r.status = .exception → r.failures = [] → r.outcome.isSome = true

theorem Prepared.of_success {mode : ResultMode} (inMode : r.mode = mode)
    (status : r.status = .success) (message : r.failureMessage = none)
    (failures : r.failures = []) (timely : r.timeExceeded = none) : r.Prepared mode := by
  refine ⟨inMode, consistent_of_success status message failures timely, .inl status, timely, ?_⟩
  rw [status]
  intro other
  cases other

theorem Prepared.of_failure {mode : ResultMode} {failure : Failure} (inMode : r.mode = mode)
    (status : r.status = .exception) (message : r.failureMessage.isSome = true)
    (failures : r.failures = [failure]) (timely : r.timeExceeded = none) : r.Prepared mode := by
  refine ⟨inMode, consistent_of_exception status message ?_, .inr status, timely, ?_⟩
  · rw [failures]
    exact Nat.le_of_ble_eq_true rfl
  · rw [failures]
    intro _ empty
    cases empty

theorem Prepared.status_of_failed {mode : ResultMode} (h : r.Prepared mode)
    (failed : r.isSuccess = false) : r.status = .exception := by
  rcases h.status with success | exception
  · rw [isSuccess, success] at failed
    cases failed
  · exact exception

end TestResult

open TestResult

/-! ## Executions -/

/-- A test that was executed hands a success or a failure to its handler, a test without executions
a success. -/
theorem Executed.prepared {handler : Handler κ} {test : QueryTest} {testId : String}
    {begun : Instant} {mode : ResultMode} {calls : List EngineCall} {result : TestResult}
    (executed : Executed handler (.fresh testId begun test mode) calls result) :
    (Runner.settle result).Prepared mode := by
  cases executed with
  | idle => exact .of_success rfl rfl rfl rfl rfl
  | @last _ statement answer _ sql time =>
      cases answer with
      | error e => exact .of_failure rfl rfl rfl rfl rfl
      | ok outcome =>
          simp only [recordAnswer, Runner.recordOutcome]
          cases handler.checkExecution statement outcome with
          | some failure => cases outcome <;> exact .of_failure rfl rfl rfl rfl rfl
          | none =>
              cases outcome with
              | table t => exact .of_success rfl rfl rfl rfl rfl
              | exception e =>
                  exact ⟨rfl, consistent_of_exception rfl rfl (Nat.zero_le _), .inr rfl, rfl,
                    fun _ _ => rfl⟩

/-! ## Handlers -/

theorem Outcome.exists_of_any_isException {outcome : Option Outcome}
    (raised : outcome.any Outcome.isException = true) : ∃ e, outcome = some (.exception e) := by
  match outcome with
  | some (.exception e) => exact ⟨e, rfl⟩
  | some (.table t) => cases raised
  | none => cases raised

namespace TestResult

variable {r : TestResult} {c : Comparison}

theorem applyVerdict_of_failed (failed : c.verdict ≠ .pass) :
    r.applyVerdict c = { r with
      status := .exception
      failureMessage := c.verdict.message?
      failures := c.verdict.failures } := by
  unfold applyVerdict
  split
  next pass => exact absurd pass failed
  next => rfl

/-- The failures of a comparison are those of the result, whatever the time. -/
theorem applyComparison_of_failed (failed : c.verdict ≠ .pass) :
    (r.applyComparison c).status = .exception ∧
      (r.applyComparison c).failures = c.verdict.failures ∧
      (r.applyComparison c).failureMessage.isSome = true := by
  unfold applyComparison
  rw [applyVerdict_of_failed failed]
  cases c.timeExceeded with
  | none => exact ⟨rfl, rfl, Verdict.isSome_message? failed⟩
  | some excess => exact ⟨rfl, rfl, rfl⟩

theorem consistent_of_failed (found : c.verdict.OfFailures) (failed : c.verdict ≠ .pass) :
    (r.applyComparison c).Consistent := by
  obtain ⟨status, failures, message⟩ := applyComparison_of_failed (r := r) failed
  refine consistent_of_exception status message ?_
  rw [failures]
  exact found.length_failures_le

/-- A test passes by a comparison in which nothing differs and the time was kept. -/
theorem isSuccess_applyComparison (r : TestResult) (c : Comparison) :
    (r.applyComparison c).isSuccess = c.isPass := by
  by_cases pass : c.verdict = .pass
  · unfold applyComparison applyVerdict Comparison.isPass isSuccess
    rw [pass]
    cases c.timeExceeded with
    | some excess => rfl
    | none => cases r.outcome.any Outcome.isException <;> rfl
  · obtain ⟨status, -, -⟩ := applyComparison_of_failed (r := r) pass
    have failed : c.verdict.isPass = false := Bool.eq_false_iff.mpr (mt Verdict.isPass_iff.mp pass)
    rw [isSuccess, status, Comparison.isPass, failed]
    rfl

/-- Where nothing differs, a test can only fail by its time. -/
theorem status_of_late (pass : c.verdict = .pass)
    (failed : (r.applyComparison c).isSuccess = false) :
    (r.applyComparison c).status = .timeExceeded := by
  rw [isSuccess_applyComparison, Comparison.isPass, pass] at failed
  unfold applyComparison applyVerdict
  rw [pass]
  cases excess : c.timeExceeded with
  | some excess => rfl
  | none => rw [excess] at failed; cases failed

namespace Prepared

/-- A comparison in which nothing differs leaves at most a complaint about the time. -/
theorem applyComparison (h : r.Prepared .compare) (pass : c.verdict = .pass) :
    (r.applyComparison c).Consistent := by
  unfold TestResult.applyComparison applyVerdict
  rw [pass]
  cases c.timeExceeded with
  | some excess =>
      exact ⟨nofun, nofun, fun _ => rfl, fun some => absurd rfl some, Nat.zero_le _, nofun,
        fun _ => ⟨h.mode, rfl, rfl, rfl⟩⟩
  | none =>
      cases raised : r.outcome.any Outcome.isException with
      | false => exact consistent_of_success rfl rfl rfl h.timely
      | true =>
          exact ⟨nofun, fun _ => ⟨rfl, rfl, h.timely⟩, nofun, fun some => absurd rfl some,
            Nat.zero_le _, fun _ => ⟨h.mode, Outcome.exists_of_any_isException raised⟩, nofun⟩

/-- A failed test of which only the counts are checked has its message as a failure. -/
theorem withMessageFailure {mode : ResultMode} (h : r.Prepared mode)
    (failed : r.isSuccess = false) :
    (Handler.withMessageFailure r).Consistent ∧
      (Handler.withMessageFailure r).status = .exception ∧
      (Handler.withMessageFailure r).failures ≠ [] := by
  have status := h.status_of_failed failed
  have message := h.consistent.failed failed
  unfold Handler.withMessageFailure
  split
  next none _ =>
    exact ⟨consistent_of_exception status message (Nat.le_of_ble_eq_true rfl), status, nofun⟩
  next other =>
    refine ⟨h.consistent, status, fun none => ?_⟩
    obtain ⟨words, is⟩ := Option.isSome_iff_exists.mp message
    exact other words none is

end Prepared
end TestResult

/-- What a handler leaves behind is consistent, even if a collaborator refused. -/
theorem Handling.consistent {test : QueryTest} {before result : TestResult} {handler : Handler κ}
    {asked : List CollaboratorCall} (handling : Handling test before handler asked result)
    (h : before.Prepared handler.mode) : result.Consistent := by
  cases handling with
  | unanswered none told => exact h.consistent.unlessRefused _
  | unexpected some answered => exact consistent_fail before _
  | incomparable some answered compared => exact consistent_fail before _
  | matched some answered compared pass => exact h.applyComparison pass
  | mismatched some answered compared failed told =>
      have found := Policy.ofFailures_of_compare compared
      exact (consistent_of_failed found failed).unlessRefused _
  | counted passed => exact h.consistent
  | miscounted failed told => exact (h.withMessageFailure failed).1.unlessRefused _
  | unwritten none => exact h.consistent
  | written some answered => exact h.consistent.unlessRefused _
  | executed => exact h.consistent

theorem TestTrace.IsOf.consistent {r : Runner κ} {trace : TestTrace} (h : trace.IsOf r) :
    trace.result.Consistent := by
  cases h with
  | intro test executions before handled schedule executed handling =>
      exact (handling.consistent executed.prepared).finish _

/-! ## Runs -/

namespace Runner

/-- Every result in the report of a run is consistent, in whatever mode the scenario is run,
whatever the engine answers, and whoever of the collaborators refuses. -/
theorem consistent_of_mem_results (r : Runner κ) (engine : Engine ε) (scenario : Scenario)
    (state : ε) (collaborators : κ) (interrupt : Interrupt) :
    ∀ result ∈ (r.run engine scenario state collaborators interrupt).report.results,
      result.Consistent := by
  intro result member
  obtain ⟨traces, h⟩ := r.run_traces engine scenario state collaborators interrupt
  rw [h.results] at member
  obtain ⟨trace, inRun, rfl⟩ := List.mem_map.mp member
  exact (h.each trace inRun).consistent

/-- A table that comes too late, an exception that is expected, and a statement that cannot be
run. -/
theorem consistent_of_late_result :
    let scenario : Scenario := ⟨"regression", [⟨"people",
      [.ofSql "people" "late" "SELECT name FROM people",
        .ofSql "people" "missing" "SELECT * FROM missing", .ofSql "people" "lost" "SELECT 1"]⟩]⟩
    let names : Table := ⟨["name"], ["varchar"], [[.text "bob"]], none, 100⟩
    let missing : RaisedException :=
      ⟨some "java.sql.SQLException", "Table missing not found", .exact, 1⟩
    let outcomes : List Outcome := [.table { names with executionTime := 500 }, .exception missing]
    let store : OutcomeStore :=
      ⟨[(("people", "late"), .table names), (("people", "missing"), .exception missing)]⟩
    let sink : Sink (OutcomeStore × List String) :=
      { report := fun result _ s => ⟨.ok (), s.1, s.2 ++ [result.query]⟩ }
    let run := (comparing (Policy.exact.withTimeCheck (.ofNat 10) 10) sink).run replaying scenario
      outcomes (store, []) .new
    run.report.results.map TestResult.status = [.timeExceeded, .expectedException, .exception] ∧
      ∃ result ∈ run.report.results, result.status = .timeExceeded ∧ result.Consistent := by
  intro scenario names missing outcomes store sink run
  have statuses : run.report.results.map TestResult.status =
      [.timeExceeded, .expectedException, .exception] := by decide +kernel
  have late : ∃ result ∈ run.report.results, result.status = .timeExceeded := by decide +kernel
  obtain ⟨result, member, status⟩ := late
  exact ⟨statuses, result, member, status, consistent_of_mem_results _ _ _ _ _ _ result member⟩

end Runner
end QueryRegression
