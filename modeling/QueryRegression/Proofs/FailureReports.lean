import QueryRegression.Proofs.ResultConsistency

/-!
# Reports of failures

In a run that compares, and in which no sink refuses, every failed test is reported once, with all
its failures (`Runner.run_reported`). There are two kinds of failed tests of which this is not said:
those that were only too late, which are not reported because nothing was wrong with their outcomes
(`Runner.late_not_reported`), and those of which the outcome could not be compared.
-/

namespace QueryRegression

variable {ε κ : Type}

/-- What a call reports: a result with its failures. -/
def CollaboratorCall.reported? : CollaboratorCall → Option (TestResult × List Failure)
  | .report result failures _ => some (result, failures)
  | _ => none

/-- What some calls report, in their order. -/
def reports (calls : List CollaboratorCall) : List (TestResult × List Failure) :=
  calls.filterMap CollaboratorCall.reported?

/-- The sink takes whatever it is told. -/
structure Sink.NeverRefuses (sink : Sink κ) : Prop where
  report : ∀ result failures state, (sink.report result failures state).answer = .ok ()
  reportAll : ∀ result failures state, (sink.reportAll result failures state).answer = .ok ()

/-- The outcome of a test was compared with an expected one, if any was asked for. -/
def Compared (policy : Policy) (test : QueryTest) (asked : List CollaboratorCall)
    (result : TestResult) : Prop :=
  ∀ answer, .expect test answer ∈ asked → ∃ actual expected comparison,
    result.outcome = some actual ∧ answer = .ok expected ∧
      policy.compare actual expected test.isOrdered = .ok comparison

/-- What is reported of a test, and when. -/
structure Reported (policy : Policy) (test : QueryTest) (asked : List CollaboratorCall)
    (result : TestResult) : Prop where
  failed : result.isSuccess = false → result.status ≠ .timeExceeded →
    Compared policy test asked result →
    result.failures ≠ [] ∧ reports asked = [(result, result.failures)]
  passed : result.isSuccess = true → reports asked = []
  late : result.status = .timeExceeded → result.failures = [] ∧ reports asked = []

/-! ## One test -/

section Test

variable {policy : Policy} {sink : Sink κ} {test : QueryTest} {before result : TestResult}
  {asked told : List CollaboratorCall} {answer : Except Error Unit}

/-- A sink that does not refuse is told of a result with failures once, and of no other. -/
theorem Told.reports_eq (told' : Told sink result told answer) (never : sink.NeverRefuses) :
    answer = .ok () ∧
      reports told = if result.failures = [] then [] else [(result, result.failures)] := by
  cases told' with
  | nothing none => exact ⟨rfl, by rw [if_pos none]; rfl⟩
  | refused some refused => cases (never.report _ _ _).symm.trans refused
  | one one answered =>
      have some : result.failures ≠ [] := List.ne_nil_of_length_pos (one ▸ Nat.one_pos)
      exact ⟨rfl, by rw [if_neg some]; rfl⟩
  | several several answered answered' =>
      have some : result.failures ≠ [] := List.ne_nil_of_length_pos (Nat.zero_lt_of_lt several)
      exact ⟨answered'.symm.trans (never.reportAll _ _ _), by rw [if_neg some]; rfl⟩

theorem Told.reports_of_ne_nil (told' : Told sink result told answer) (never : sink.NeverRefuses)
    (some : result.failures ≠ []) :
    answer = .ok () ∧ reports told = [(result, result.failures)] := by
  have eq := told'.reports_eq never
  rw [if_neg some] at eq
  exact eq

/-- A result that failed is reported, whatever was asked before. -/
theorem Reported.of_exception (status : result.status = .exception)
    (told : Compared policy test asked result →
      result.failures ≠ [] ∧ reports asked = [(result, result.failures)]) :
    Reported policy test asked result := by
  refine ⟨fun _ _ => told, ?_, ?_⟩
  · rw [TestResult.isSuccess, status]
    intro passed
    cases passed
  · rw [status]
    intro late
    cases late

theorem Reported.of_late (status : result.status = .timeExceeded)
    (late : result.failures = [] ∧ reports asked = []) : Reported policy test asked result := by
  refine ⟨fun _ other => absurd status other, ?_, fun _ => late⟩
  rw [TestResult.isSuccess, status]
  intro passed
  cases passed

theorem Reported.of_success (success : result.isSuccess = true) (none : reports asked = []) :
    Reported policy test asked result := by
  refine ⟨fun failed => ?_, fun _ => none, fun late => ?_⟩
  · cases success.symm.trans failed
  · rw [TestResult.isSuccess, late] at success
    cases success

/-- What is reported of a test whose outcome is to be compared. -/
theorem Handling.reported_of_compare {reader : Reader κ}
    (handling : Handling test before (.compare policy reader sink) asked result)
    (h : before.Prepared .compare) (never : sink.NeverRefuses) :
    Reported policy test asked result := by
  cases handling with
  | @unanswered _ _ _ _ answer none told =>
      cases success : before.isSuccess with
      | true =>
          obtain ⟨-, empty, -⟩ := h.consistent.passed success
          obtain ⟨rfl, reported⟩ := told.reports_eq never
          rw [if_pos empty] at reported
          exact .of_success success reported
      | false =>
          have status := h.status_of_failed success
          have some : before.failures ≠ [] := by
            intro empty
            have raised := h.raised status empty
            rw [none] at raised
            cases raised
          obtain ⟨rfl, reported⟩ := told.reports_of_ne_nil never some
          exact .of_exception status fun _ => ⟨some, reported⟩
  | @unexpected _ _ _ actual _ e some answered =>
      refine .of_exception rfl fun compared => ?_
      obtain ⟨_, _, _, -, ok, -⟩ := compared (.error e) (List.mem_singleton.mpr rfl)
      cases ok
  | @incomparable _ _ _ actual _ expected e some answered refused =>
      refine .of_exception rfl fun compared => ?_
      obtain ⟨_, _, _, outcome, ok, comparison⟩ :=
        compared (.ok expected) (List.mem_singleton.mpr rfl)
      cases ok
      cases some.symm.trans outcome
      cases refused.symm.trans comparison
  | @matched _ _ _ _ _ _ c some answered compared pass =>
      cases success : (before.applyComparison c).isSuccess with
      | true => exact .of_success success rfl
      | false =>
          have status := TestResult.status_of_late pass success
          obtain ⟨-, empty, -⟩ := (h.applyComparison pass).late status
          exact .of_late status ⟨empty, rfl⟩
  | mismatched some answered compared failed told =>
      obtain ⟨status, failures, -⟩ := TestResult.applyComparison_of_failed (r := before) failed
      have found := (Policy.ofFailures_of_compare compared).failures_ne_nil failed
      rw [← failures] at found
      obtain ⟨rfl, reported⟩ := told.reports_of_ne_nil never found
      exact .of_exception status fun _ => ⟨found, reported⟩

/-- What is reported of a test of which only the counts are checked. -/
theorem Handling.reported_of_counts
    (handling : Handling test before (.counts sink) asked result)
    (h : before.Prepared .counts) (never : sink.NeverRefuses) :
    Reported policy test asked result := by
  cases handling with
  | counted passed => exact .of_success passed rfl
  | miscounted failed told =>
      obtain ⟨-, status, some⟩ := h.withMessageFailure failed
      obtain ⟨rfl, reported⟩ := told.reports_of_ne_nil never some
      exact .of_exception status fun _ => ⟨some, reported⟩

end Test

/-! ## All tests -/

namespace Runner

variable (r : Runner κ) (engine : Engine ε) (scenario : Scenario)

/-- In a run that compares and in which no sink refuses, every failed test is reported exactly once,
with all its failures, unless it was only too late or its outcome could not be compared. A test that
passed is never reported. A sink sees the result of a test before the end of the test is noted in
it. -/
theorem run_reported {policy : Policy} {reader : Reader κ} {sink : Sink κ} (state : ε)
    (collaborators : κ) (interrupt : Interrupt)
    (comparing : r.handler = .compare policy reader sink)
    (never : sink.NeverRefuses) (never' : r.sink.NeverRefuses) :
    ∃ traces, RunTraces r engine scenario state collaborators interrupt traces ∧
      ∀ trace ∈ traces, ∃ handled ended, trace.result = handled.finish ended ∧
        Reported policy trace.test trace.asked handled := by
  obtain ⟨traces, h⟩ := r.run_traces engine scenario state collaborators interrupt
  refine ⟨traces, h, fun trace member => ?_⟩
  cases h.each trace member with
  | intro test executions before handled schedule executed handling =>
      refine ⟨handled, _, rfl, ?_⟩
      have prepared := executed.prepared
      unfold handlerFor at handling prepared
      split at handling
      next overrides =>
        rw [if_pos overrides] at prepared
        exact handling.reported_of_counts prepared never'
      next keeps =>
        rw [if_neg keeps, comparing] at prepared
        rw [comparing] at handling
        exact handling.reported_of_compare prepared never

/-- Another table than the expected one, an exception in place of a table, an error of the engine,
and the expected table. -/
theorem run_reported_four_tests :
    let scenario : Scenario := ⟨"regression", [⟨"people",
      [.ofSql "people" "some" "SELECT name FROM people WHERE id = 1",
        .ofSql "people" "missing" "SELECT * FROM missing",
        .ofSql "people" "all" "SELECT name FROM people", .ofSql "people" "lost" "SELECT 1"]⟩]⟩
    let bob : Table := ⟨["name"], ["varchar"], [[.text "bob"]], none, 1⟩
    let ann : Table := ⟨["name"], ["varchar"], [[.text "ann"]], none, 1⟩
    let store : OutcomeStore := ⟨[(("people", "some"), .table ann),
      (("people", "missing"), .table bob), (("people", "all"), .table bob)]⟩
    let sink : Sink (OutcomeStore × List String) :=
      { report := fun result _ s => ⟨.ok (), s.1, s.2 ++ [result.query]⟩ }
    let r := comparing .exact sink
    let outcomes : List Outcome :=
      [.table bob, .exception ⟨none, "no such table", .exact, 1⟩, .table bob]
    (reports (r.collaboratorCalls replaying scenario outcomes (store, []) .new)).map (·.1.query) =
        ["some", "missing", "lost"] ∧
      ∃ traces, RunTraces r replaying scenario outcomes (store, []) .new traces ∧
        ∀ trace ∈ traces, ∃ handled ended, trace.result = handled.finish ended ∧
          Reported .exact trace.test trace.asked handled := by
  intro scenario bob ann store sink r outcomes
  have never : sink.NeverRefuses := ⟨fun _ _ _ => rfl, fun _ _ _ => rfl⟩
  exact ⟨by decide +kernel,
    run_reported r replaying scenario outcomes (store, []) .new rfl never never⟩

/-- A table that comes too late, and a table for which nothing is expected, are failures that no
sink is told of. -/
theorem late_not_reported :
    let scenario : Scenario := ⟨"regression", [⟨"people",
      [.ofSql "people" "late" "SELECT name FROM people", .ofSql "people" "new" "SELECT 1"]⟩]⟩
    let names : Table := ⟨["name"], ["varchar"], [[.text "bob"]], none, 100⟩
    let store : OutcomeStore := ⟨[(("people", "late"), .table names)]⟩
    let sink : Sink (OutcomeStore × Unit) := { report := fun _ _ s => ⟨.ok (), s⟩ }
    let r := comparing (Policy.exact.withTimeCheck (.ofNat 10) 10) sink
    let outcomes : List Outcome := [.table { names with executionTime := 500 }, .table names]
    (r.run replaying scenario outcomes (store, ()) .new).report.results.map
        (fun result => (result.status, result.isSuccess, result.failures.length)) =
          [(.timeExceeded, false, 0), (.exception, false, 1)] ∧
      reports (r.collaboratorCalls replaying scenario outcomes (store, ()) .new) = [] := by
  decide +kernel

end Runner
end QueryRegression
