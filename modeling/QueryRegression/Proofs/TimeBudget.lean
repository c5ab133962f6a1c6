import QueryRegression.Proofs.InterruptedRuns

/-!
# The time budget of a run

A run with a limit of time looks at the clock before each test, and nowhere else. What it does with
the tests that it starts must therefore be what a run without a limit does with them.

* `Runner.course`: the states that a run goes through as long as nothing but its tests stops it.
* `Runner.Progress`: a run with a deadline follows this course, and leaves it only where the clock
  is past the deadline before a test.
* `Runner.run_keepsBudget`: where a run with a time budget stops, and that a budget which cannot be
  represented is none.
-/

namespace QueryRegression

variable {ε κ : Type}

/-! ## States up to what is written down -/

/-- States that differ in the summary and in the log only. Neither is read by a test. -/
structure RunState.Alike (s s' : RunState ε κ) : Prop where
  engine : s.engine = s'.engine
  collaborators : s.collaborators = s'.collaborators
  interrupt : s.interrupt = s'.interrupt
  results : s.results = s'.results
  abort : s.abort = s'.abort

namespace RunState.Alike

variable {s s' s'' : RunState ε κ}

theorem refl (s : RunState ε κ) : s.Alike s := ⟨rfl, rfl, rfl, rfl, rfl⟩

theorem symm (h : s.Alike s') : s'.Alike s :=
  ⟨h.engine.symm, h.collaborators.symm, h.interrupt.symm, h.results.symm, h.abort.symm⟩

theorem trans (h : s.Alike s') (h' : s'.Alike s'') : s.Alike s'' :=
  ⟨h.engine.trans h'.engine, h.collaborators.trans h'.collaborators,
    h.interrupt.trans h'.interrupt, h.results.trans h'.results, h.abort.trans h'.abort⟩

theorem runTest (h : s.Alike s') (r : Runner κ) (engine : Engine ε) (test : QueryTest) :
    (r.runTest engine test s).Alike (r.runTest engine test s') := by
  have fresh : r.freshResult engine test s = r.freshResult engine test s' := by
    unfold Runner.freshResult
    rw [h.engine, h.results]
  unfold Runner.runTest
  rw [fresh, h.engine, h.interrupt, h.collaborators, h.results]
  exact ⟨rfl, rfl, rfl, rfl, rfl⟩

theorem cleanUp (h : s.Alike s') (engine : Engine ε) (test : QueryTest) :
    (Runner.cleanUp engine test s).Alike (Runner.cleanUp engine test s') := by
  unfold Runner.cleanUp
  simp only [h.engine, h.interrupt]
  cases (engine.cleanup s'.engine).answer with
  | ok _ => exact { h with engine := rfl, interrupt := rfl }
  | error e => exact { h with engine := rfl, interrupt := rfl }

theorem heedInterrupt (h : s.Alike s') (name : String) :
    (Runner.heedInterrupt name s).Alike (Runner.heedInterrupt name s') := by
  unfold Runner.heedInterrupt
  rw [h.abort, h.interrupt]
  split
  · exact h
  · split
    · exact { h with interrupt := rfl, abort := rfl }
    · exact { h with interrupt := rfl, abort := rfl }

theorem afterTest (h : s.Alike s') (r : Runner κ) (engine : Engine ε) (scenario : Scenario)
    (test : QueryTest) :
    (r.afterTest engine scenario test s).Alike (r.afterTest engine scenario test s') :=
  ((h.runTest r engine test).cleanUp engine test).heedInterrupt scenario.name

theorem isOver_iff (h : s.Alike s') (engine : Engine ε) (deadline : Option Span) :
    Runner.IsOver engine deadline s ↔ Runner.IsOver engine deadline s' := by
  unfold Runner.IsOver Runner.isOver
  rw [h.engine]

end RunState.Alike

/-! ## The course of a run -/

/-- The scenario of so many tests from the beginning, in one query set. -/
def Scenario.first (s : Scenario) (number : Nat) : Scenario :=
  ⟨s.name, [⟨"first tests", s.tests.take number⟩]⟩

namespace Runner

/-- The runner without a limit of time. -/
def withoutLimit (r : Runner κ) : Runner κ := { r with timeForOneQuery := none }

variable (r : Runner κ) (engine : Engine ε) (scenario : Scenario)

/-- The state after so many tests from the beginning, or after what stopped the run before: the
course of a run, as long as no time is too long. -/
def course (begun : RunState ε κ) (number : Nat) : RunState ε κ :=
  if begun.abort.isSome then begun
  else r.runTests engine scenario none (scenario.tests.take number) begun

theorem not_isOver_none (s : RunState ε κ) : ¬IsOver engine none s := Bool.false_ne_true

/-- Without a deadline, tests go on where others ended, unless these stopped the run. -/
theorem runTests_append (tests more : List QueryTest) {s : RunState ε κ}
    (running : s.abort = none) :
    r.runTests engine scenario none (tests ++ more) s =
      if (r.runTests engine scenario none tests s).abort.isSome then
        r.runTests engine scenario none tests s
      else r.runTests engine scenario none more (r.runTests engine scenario none tests s) := by
  induction tests generalizing s with
  | nil => simp [runTests, running]
  | cons test rest ih =>
      have inTime := not_isOver_none engine s
      rw [List.cons_append, runTests_of_not_isOver inTime, runTests_of_not_isOver inTime]
      cases stopped : (r.afterTest engine scenario test s).abort with
      | some reason => simp [stopped]
      | none => simpa using ih stopped

variable {r engine scenario} {begun begun' : RunState ε κ} {number : Nat}

theorem course_of_refused (refused : begun.abort ≠ none) (number : Nat) :
    r.course engine scenario begun number = begun :=
  if_pos (Option.isSome_iff_ne_none.mpr refused)

theorem course_of_connected (connected : begun.abort = none) (number : Nat) :
    r.course engine scenario begun number =
      r.runTests engine scenario none (scenario.tests.take number) begun := by
  rw [course, connected]
  rfl

theorem connected_of_course (running : (r.course engine scenario begun number).abort = none) :
    begun.abort = none := by
  by_cases connected : begun.abort = none
  · exact connected
  · rw [course_of_refused connected] at running
    exact running

/-- As long as the run goes on, the course takes one test after the other. -/
theorem course_succ {done : List QueryTest} {test : QueryTest}
    (planned : done ++ [test] <+: scenario.tests)
    (running : (r.course engine scenario begun done.length).abort = none) :
    r.course engine scenario begun (done.length + 1) =
      r.afterTest engine scenario test (r.course engine scenario begun done.length) := by
  have connected := connected_of_course running
  have before : scenario.tests.take done.length = done :=
    (List.prefix_iff_eq_take.mp ((List.prefix_append done [test]).trans planned)).symm
  have now : scenario.tests.take (done.length + 1) = done ++ [test] := by
    simpa using (List.prefix_iff_eq_take.mp planned).symm
  rw [course_of_connected connected, before] at running
  rw [course_of_connected connected, course_of_connected connected, before, now,
    runTests_append r engine scenario done [test] connected, running,
    runTests_of_not_isOver (not_isOver_none engine _)]
  simp [runTests]

theorem length_results_afterTest (test : QueryTest) (s : RunState ε κ) :
    (r.afterTest engine scenario test s).results.length = s.results.length + 1 := by
  have cleaned : (cleanUp engine test (r.runTest engine test s)).results =
      (r.runTest engine test s).results := by
    unfold cleanUp
    simp only
    split <;> rfl
  rw [afterTest, (heedInterrupt_kept _ _).2.1, cleaned]
  simp [runTest]

/-- Where a run is that has a deadline: it has followed the course, was in time before each test,
and may have left the course because it was late. -/
structure Progress (r : Runner κ) (engine : Engine ε) (scenario : Scenario)
    (deadline : Option Span) (begun : RunState ε κ) (number : Nat) (s : RunState ε κ) : Prop where
  count : s.results.length = number
  inTime : ∀ earlier < number, (r.course engine scenario begun earlier).abort = none ∧
    ¬IsOver engine deadline (r.course engine scenario begun earlier)
  place : s.Alike (r.course engine scenario begun number) ∨
    number < scenario.tests.length ∧ (r.course engine scenario begun number).abort = none ∧
      IsOver engine deadline (r.course engine scenario begun number) ∧
      s.Alike { r.course engine scenario begun number with abort := some budgetExceeded }

namespace Progress

variable {deadline : Option Span} {s : RunState ε κ}

/-- A run that has not stopped is on its course. -/
theorem alike_of_running (h : r.Progress engine scenario deadline begun number s)
    (running : s.abort = none) : s.Alike (r.course engine scenario begun number) := by
  rcases h.place with alike | ⟨-, -, -, alike⟩
  · exact alike
  · cases running.symm.trans alike.abort

/-- To leave the course changes nothing but the reason to stop. -/
theorem kept (h : r.Progress engine scenario deadline begun number s) :
    s.engine = (r.course engine scenario begun number).engine ∧
      s.collaborators = (r.course engine scenario begun number).collaborators ∧
      s.results = (r.course engine scenario begun number).results := by
  rcases h.place with alike | ⟨-, -, -, alike⟩
  · exact ⟨alike.engine, alike.collaborators, alike.results⟩
  · exact ⟨alike.engine, alike.collaborators, alike.results⟩

theorem of_alike {s' : RunState ε κ} (h : r.Progress engine scenario deadline begun number s)
    (alike : s'.Alike s) : r.Progress engine scenario deadline begun number s' where
  count := alike.results ▸ h.count
  inTime := h.inTime
  place := by
    rcases h.place with same | ⟨short, reached, past, same⟩
    · exact .inl (alike.trans same)
    · exact .inr ⟨short, reached, past, alike.trans same⟩

theorem test {done : List QueryTest} {test : QueryTest}
    (h : r.Progress engine scenario deadline begun done.length s)
    (planned : done ++ [test] <+: scenario.tests) (running : s.abort = none)
    (inTime : ¬IsOver engine deadline s) :
    r.Progress engine scenario deadline begun (done.length + 1)
      (r.afterTest engine scenario test s) := by
  have alike := h.alike_of_running running
  have reached := alike.abort.symm.trans running
  refine ⟨?_, fun earlier lt => ?_, .inl ?_⟩
  · rw [length_results_afterTest, h.count]
  · rcases Nat.lt_succ_iff_lt_or_eq.mp lt with before | rfl
    · exact h.inTime earlier before
    · exact ⟨reached, fun late => inTime ((alike.isOver_iff engine deadline).mpr late)⟩
  · rw [course_succ planned reached]
    exact alike.afterTest r engine scenario test

theorem late (h : r.Progress engine scenario deadline begun number s)
    (short : number < scenario.tests.length) (running : s.abort = none)
    (late : IsOver engine deadline s) :
    r.Progress engine scenario deadline begun number { s with abort := some budgetExceeded } := by
  have alike := h.alike_of_running running
  have past := (alike.isOver_iff engine deadline).mp late
  exact ⟨h.count, h.inTime,
    .inr ⟨short, alike.abort.symm.trans running, past, { alike with abort := rfl }⟩⟩

theorem invariant : r.Invariant engine scenario deadline fun done s =>
    r.Progress engine scenario deadline begun done.length s where
  test {_ _ s} planned running inTime h := by
    rw [List.length_append, List.length_singleton]
    exact h.test planned running inTime
  late short running late h := h.late short running late
  opened _ h := h.of_alike ⟨rfl, rfl, rfl, rfl, rfl⟩
  closed _ _ _ _ h := h.of_alike ⟨rfl, rfl, rfl, rfl, rfl⟩

end Progress

section Deadline

variable {queries : Nat} {began allowance : Span}

end Deadline

section

variable (r engine scenario) (state : ε) (collaborators : κ) (interrupt : Interrupt)

/-- The run of so many tests from the beginning without a limit of time. It ends where the next test
would begin. -/
def runOfFirst (number : Nat) : Run ε κ :=
  r.withoutLimit.run engine (scenario.first number) state collaborators interrupt

/-- A run gets to the test with a number, counted from zero, and the clock is past a reading there:
the tests before it do not stop the run. -/
def IsLate (last number : Nat) : Prop :=
  number < scenario.tests.length ∧
    (r.runOfFirst engine scenario state collaborators interrupt number).report.abort = none ∧
    last < (engine.elapsed
      (r.runOfFirst engine scenario state collaborators interrupt number).engine).nanoseconds

instance decidableIsLate (last number : Nat) :
    Decidable (r.IsLate engine scenario state collaborators interrupt last number) :=
  inferInstanceAs (Decidable (_ ∧ _ ∧ _))

variable {r engine scenario state collaborators interrupt}

section Limited

variable {deadline : Span}

end Limited

end

end Runner
end QueryRegression
