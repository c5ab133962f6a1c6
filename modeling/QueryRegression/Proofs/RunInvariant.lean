import QueryRegression.Run.Runner

/-!
# Invariants of runs

A run takes the tests of a scenario one by one, through several query sets, and may stop before any
of them. `Runner.Invariant` says what it takes for a statement about the tests that were run and the
state of the run to hold all along, and `Runner.Invariant.finalState` that it then holds at the end.
-/

namespace QueryRegression.Runner

variable {ε κ : Type} (r : Runner κ) (engine : Engine ε) (scenario : Scenario)
  (deadline : Option Span)

/-- The state after one more test, what it held released and a request to stop followed. -/
def afterTest (test : QueryTest) (s : RunState ε κ) : RunState ε κ :=
  heedInterrupt scenario.name (cleanUp engine test (r.runTest engine test s))

/-- The time budget is used up. -/
def IsOver (s : RunState ε κ) : Prop := isOver engine deadline s = true

/-- The state after the last test of a run. -/
def finalState (state : ε) (collaborators : κ) (interrupt : Interrupt) : RunState ε κ :=
  r.runSets engine scenario (r.deadline scenario.totalQueries (engine.elapsed state))
    scenario.querySets (r.start engine scenario state collaborators interrupt)

/-- What is kept of the tests that were run and of the state: by every further test, by the end of
the time budget, and by the log lines and sums around query sets. -/
structure Invariant (holds : List QueryTest → RunState ε κ → Prop) : Prop where
  test : ∀ {done test s}, done ++ [test] <+: scenario.tests → s.abort = none →
    ¬IsOver engine deadline s → holds done s →
      holds (done ++ [test]) (r.afterTest engine scenario test s)
  late : ∀ {done s}, done.length < scenario.tests.length → s.abort = none →
    IsOver engine deadline s → holds done s → holds done { s with abort := some budgetExceeded }
  opened : ∀ {done s} (log : List LogLine), holds done s → holds done { s with log }
  closed : ∀ {done s} (name : String) (begun ended : Instant) (log : List LogLine), holds done s →
    holds done { s with summary := s.summary.closeSet name begun ended, log }

variable {r engine scenario deadline} {holds : List QueryTest → RunState ε κ → Prop}

theorem runTests_of_isOver {test : QueryTest} {rest : List QueryTest} {s : RunState ε κ}
    (late : IsOver engine deadline s) :
    r.runTests engine scenario deadline (test :: rest) s =
      { s with abort := some budgetExceeded } := by
  rw [runTests]
  exact if_pos late

theorem runTests_of_not_isOver {test : QueryTest} {rest : List QueryTest} {s : RunState ε κ}
    (inTime : ¬IsOver engine deadline s) :
    r.runTests engine scenario deadline (test :: rest) s =
      if (r.afterTest engine scenario test s).abort.isSome then r.afterTest engine scenario test s
      else r.runTests engine scenario deadline rest (r.afterTest engine scenario test s) := by
  rw [runTests]
  exact if_neg inTime

namespace Invariant

theorem runTests (inv : r.Invariant engine scenario deadline holds) {tests done : List QueryTest}
    {s : RunState ε κ} (planned : done ++ tests <+: scenario.tests) (running : s.abort = none)
    (begun : holds done s) :
    ∃ ran, ran <+: tests ∧ holds (done ++ ran) (r.runTests engine scenario deadline tests s) ∧
      ((r.runTests engine scenario deadline tests s).abort = none → ran = tests) := by
  induction tests generalizing done s with
  | nil => exact ⟨[], List.prefix_rfl, by simpa [Runner.runTests] using begun, fun _ => rfl⟩
  | cons test rest ih =>
      have split : done ++ test :: rest = done ++ [test] ++ rest := by simp
      rw [split] at planned
      have next : done ++ [test] <+: scenario.tests := (List.prefix_append _ rest).trans planned
      -- The budget is checked before the test, so a run may stop with this test not done.
      by_cases late : IsOver engine deadline s
      · have short : done.length < scenario.tests.length := by
          have := next.length_le
          simp only [List.length_append, List.length_singleton] at this
          omega
        rw [runTests_of_isOver late]
        exact ⟨[], List.nil_prefix, by simpa using inv.late short running late begun, nofun⟩
      · have after := inv.test next running late begun
        rw [runTests_of_not_isOver late]
        cases stopped : (r.afterTest engine scenario test s).abort with
        | some reason =>
            refine ⟨[test], by simp, ?_, ?_⟩
            · simpa using after
            · simp [stopped]
        | none =>
            obtain ⟨ran, first, kept, all⟩ := ih planned stopped after
            refine ⟨test :: ran, by simpa using first, ?_, ?_⟩
            · simpa using kept
            · simpa using all

theorem runSet (inv : r.Invariant engine scenario deadline holds) {set : QuerySet}
    {done : List QueryTest} {s : RunState ε κ} (planned : done ++ set.tests <+: scenario.tests)
    (running : s.abort = none) (begun : holds done s) :
    ∃ ran, ran <+: set.tests ∧ holds (done ++ ran) (r.runSet engine scenario deadline set s) ∧
      ((r.runSet engine scenario deadline set s).abort = none → ran = set.tests) := by
  obtain ⟨ran, first, kept, all⟩ := inv.runTests
    (s := { s with log := s.log ++ [⟨.info, "Start TestResult: QuerySetID [" ++ set.name ++ "]"⟩] })
    planned running (inv.opened _ begun)
  exact ⟨ran, first, inv.closed set.name _ _ _ kept, all⟩

theorem runSets (inv : r.Invariant engine scenario deadline holds) {sets : List QuerySet}
    {done : List QueryTest} {s : RunState ε κ}
    (planned : done ++ sets.flatMap (·.tests) <+: scenario.tests) (running : s.abort = none)
    (begun : holds done s) :
    ∃ ran, ran <+: sets.flatMap (·.tests) ∧
      holds (done ++ ran) (r.runSets engine scenario deadline sets s) ∧
      ((r.runSets engine scenario deadline sets s).abort = none →
        ran = sets.flatMap (·.tests)) := by
  induction sets generalizing done s with
  | nil => exact ⟨[], List.prefix_rfl, by simpa [Runner.runSets] using begun, fun _ => rfl⟩
  | cons set rest ih =>
      simp only [List.flatMap_cons, ← List.append_assoc] at planned ⊢
      have next : done ++ set.tests <+: scenario.tests := (List.prefix_append _ _).trans planned
      obtain ⟨ran, first, kept, all⟩ := inv.runSet next running begun
      rw [Runner.runSets, running]
      cases stopped : (r.runSet engine scenario deadline set s).abort with
      | some reason =>
          have same :
              r.runSets engine scenario deadline rest (r.runSet engine scenario deadline set s) =
                r.runSet engine scenario deadline set s := by
            cases rest with
            | nil => rfl
            | cons next rest => simp [Runner.runSets, stopped]
          refine ⟨ran, first.trans (List.prefix_append _ _), ?_, ?_⟩
          · simpa [same] using kept
          · simp [same, stopped]
      | none =>
          have ranAll : ran = set.tests := all stopped
          rw [ranAll] at kept
          obtain ⟨more, firstMore, keptMore, allMore⟩ := ih planned stopped kept
          refine ⟨set.tests ++ more, (List.prefix_append_right_inj _).mpr firstMore, ?_, ?_⟩
          · simpa using keptMore
          · simpa using allMore

/-- An invariant that holds once the connection was checked holds at the end of the run, for the
tests that were run; unless the run was stopped, these are all tests. -/
theorem finalState {state : ε} {collaborators : κ} {interrupt : Interrupt}
    (inv : r.Invariant engine scenario (r.deadline scenario.totalQueries (engine.elapsed state))
      holds)
    (connected : (r.start engine scenario state collaborators interrupt).abort = none)
    (begun : holds [] (r.start engine scenario state collaborators interrupt)) :
    ∃ ran, ran <+: scenario.tests ∧
      holds ran (r.finalState engine scenario state collaborators interrupt) ∧
      ((r.finalState engine scenario state collaborators interrupt).abort = none →
        ran = scenario.tests) :=
  inv.runSets List.prefix_rfl connected begun

end Invariant

/-- A run that was stopped before its first query set stays as it is. -/
theorem finalState_of_not_connected {state : ε} {collaborators : κ} {interrupt : Interrupt}
    (stopped : (r.start engine scenario state collaborators interrupt).abort ≠ none) :
    r.finalState engine scenario state collaborators interrupt =
      r.start engine scenario state collaborators interrupt := by
  have isSome : (r.start engine scenario state collaborators interrupt).abort.isSome :=
    Option.isSome_iff_ne_none.mpr stopped
  unfold finalState
  cases scenario.querySets with
  | nil => rfl
  | cons set rest => rw [Runner.runSets, if_pos isSome]

end QueryRegression.Runner
