import QueryRegression.Proofs.ResultConsistency
import QueryRegression.Proofs.TestExecutions

/-!
# The counts that are checked

A test of which only the declared counts are checked passes if all its executions return tables with
these counts. But of a statement that declares both its number of rows and its number of changed
rows, the second count is never looked at: such a test passes although a declared count is wrong.

* `Statement.checkTable_eq_none_iff`: which counts of a table are checked.
* `Runner.runTest_countsChecked`: which tests pass, and which of them have a wrong count.
-/

namespace QueryRegression

variable {ε κ : Type}

namespace Table

/-- The table has every count that the statement declares. -/
structure HasDeclaredCounts (t : Table) (s : Statement) : Prop where
  rows : ∀ count, s.rowCount = some count → t.rowCount = count
  changes : ∀ count, s.updateCount = some count → t.updateCount = some count

/-- The table has the counts of the statement that are checked: the number of rows where it is
declared, and the number of changed rows where no number of rows is. -/
structure HasCheckedCounts (t : Table) (s : Statement) : Prop where
  rows : ∀ count, s.rowCount = some count → t.rowCount = count
  changes : s.rowCount = none → ∀ count, s.updateCount = some count → t.updateCount = some count

/-- The table has the declared number of rows, but not the number of changed rows that the statement
declares as well. -/
def MissesUpdateCount (t : Table) (s : Statement) : Prop :=
  s.rowCount = some t.rowCount ∧ ∃ count, s.updateCount = some count ∧ t.updateCount ≠ some count

end Table

/-- All executions of a test were made, and each returned a table that is as its statement says. -/
def AllReturned (test : QueryTest) (executions : List Execution)
    (asSaid : Table → Statement → Prop) : Prop :=
  executions.map Execution.statement = test.schedule ∧
    ∀ e ∈ executions, ∃ t, e.answer = .ok (.table t) ∧ asSaid t e.statement

/-! ## One table -/

namespace Table

variable {t : Table} {s : Statement}

theorem HasDeclaredCounts.checked (has : t.HasDeclaredCounts s) : t.HasCheckedCounts s :=
  ⟨has.rows, fun _ => has.changes⟩

/-- A wrong count that is not checked is a number of changed rows, declared beside a number of
rows. -/
theorem HasCheckedCounts.not_declared_iff (has : t.HasCheckedCounts s) :
    ¬t.HasDeclaredCounts s ↔ t.MissesUpdateCount s := by
  constructor
  · intro short
    cases rows : s.rowCount with
    | none => exact absurd ⟨has.rows, has.changes rows⟩ short
    | some count =>
        refine ⟨rows.trans (congrArg some (has.rows count rows).symm), ?_⟩
        cases changes : s.updateCount with
        | none =>
            exact absurd ⟨has.rows, fun _ declared => nomatch changes.symm.trans declared⟩ short
        | some expected =>
            refine ⟨expected, rfl, fun right => short ⟨has.rows, fun _ declared => ?_⟩⟩
            cases changes.symm.trans declared
            exact right
  · rintro ⟨-, count, changes, wrong⟩ declared
    exact wrong (declared.changes count changes)

end Table

theorem Statement.checkTable_eq_none_iff {s : Statement} {t : Table} :
    s.checkTable t = none ↔ t.HasCheckedCounts s := by
  unfold checkTable
  split
  next count rows =>
      split
      next right =>
        refine ⟨fun _ => ⟨fun _ declared => ?_, fun undeclared => ?_⟩, fun _ => rfl⟩
        · cases rows.symm.trans declared
          exact right
        · cases rows.symm.trans undeclared
      next wrong => exact ⟨nofun, fun has => absurd (has.rows count rows) wrong⟩
  next count rows changes =>
      split
      next right =>
        refine ⟨fun _ => ⟨fun _ declared => ?_, fun _ _ declared => ?_⟩, fun _ => rfl⟩
        · cases rows.symm.trans declared
        · cases changes.symm.trans declared
          exact right
      next wrong => exact ⟨nofun, fun has => absurd (has.changes rows count changes) wrong⟩
  next rows changes =>
      refine ⟨fun _ => ⟨fun _ declared => ?_, fun _ _ declared => ?_⟩, fun _ => rfl⟩
      · cases rows.symm.trans declared
      · cases changes.symm.trans declared

/-! ## The executions of a test -/

/-- Executions with the right checked counts have the right declared counts, unless one of them
misses a number of changed rows. -/
theorem AllReturned.not_declared_iff {test : QueryTest} {executions : List Execution}
    (all : AllReturned test executions Table.HasCheckedCounts) :
    ¬AllReturned test executions Table.HasDeclaredCounts ↔
      ∃ e ∈ executions, ∃ t, e.answer = .ok (.table t) ∧ t.MissesUpdateCount e.statement := by
  constructor
  · intro short
    refine Classical.byContradiction fun none => short ⟨all.1, fun e member => ?_⟩
    obtain ⟨t, answer, has⟩ := all.2 e member
    refine ⟨t, answer, Classical.byContradiction fun wrong => none ⟨e, member, t, answer, ?_⟩⟩
    exact has.not_declared_iff.mp wrong
  · rintro ⟨e, member, t, answer, misses⟩ declared
    obtain ⟨t', answer', has⟩ := declared.2 e member
    cases answer.symm.trans answer'
    exact has.checked.not_declared_iff.mpr misses has

section Test

variable {handler : Handler κ} {test : QueryTest} {calls : List EngineCall} {before : TestResult}

/-- The result of an execution is a success if the execution goes well. -/
theorem isSuccess_recordAnswer_iff (statement : Statement) (result : TestResult)
    (answer : Except Error Outcome) :
    (recordAnswer handler statement result answer).isSuccess = true ↔
      handler.GoesWell statement answer := by
  let engine : Engine Unit :=
    { execute := fun _ s => ⟨answer, s, false⟩, elapsed := fun _ => ⟨0⟩, now := fun _ => ⟨0⟩ }
  have success := Runner.isSuccess_executeOnce_iff engine handler statement
    ⟨((), []), .new, result, none⟩
  rw [Runner.result_executeOnce] at success
  exact success

/-- A result that has an answer is settled. -/
theorem settle_recordAnswer (statement : Statement) (result : TestResult)
    (answer : Except Error Outcome) :
    Runner.settle (recordAnswer handler statement result answer) =
      recordAnswer handler statement result answer := by
  refine if_neg fun unsettled => ?_
  cases answer with
  | error e => cases unsettled
  | ok outcome =>
      simp only [recordAnswer, Runner.recordOutcome] at unsettled
      cases complaint : handler.checkExecution statement outcome <;> cases outcome <;>
        rw [complaint] at unsettled <;> cases unsettled

/-- What the executions of a test hand to the handler is a success if all of them go well. -/
theorem Executed.isSuccess_settle_iff {testId : String} {begun : Instant} {mode : ResultMode}
    {passed : Bool} (executed : Executed handler (.fresh testId begun test mode) calls before)
    (planned : ScheduleCalls handler test.schedule calls passed) :
    (Runner.settle before).isSuccess = true ↔
      ∀ e ∈ executions calls, handler.GoesWell e.statement e.answer := by
  have first := planned.goesWell_of_mem_dropLast
  cases executed with
  | idle => exact ⟨fun _ => List.forall_mem_nil _, fun _ => rfl⟩
  | @last earlier statement answer raised sql time =>
      have last := executions_concat earlier ⟨statement, answer, raised⟩
      rw [Execution.call] at last
      rw [last] at first ⊢
      rw [List.dropLast_concat] at first
      rw [settle_recordAnswer, isSuccess_recordAnswer_iff]
      constructor
      · intro well e member
        rcases List.mem_append.mp member with earlier | now
        · exact first e earlier
        · rw [List.mem_singleton.mp now]
          exact well
      · intro well
        exact well ⟨statement, answer, raised⟩ List.mem_concat_self

/-- Whether a test passes of which only the counts are checked is decided by its executions. -/
theorem Handling.isSuccess_of_counts {sink : Sink κ} {result : TestResult}
    {asked : List CollaboratorCall} (handling : Handling test before (.counts sink) asked result) :
    result.isSuccess = before.isSuccess := by
  cases handling with
  | counted => rfl
  | miscounted failed =>
      rw [TestResult.isSuccess_unlessRefused, TestResult.isSuccess_withMessageFailure, failed,
        Bool.and_false]

end Test

namespace Runner

variable (r : Runner κ) (engine : Engine ε) (test : QueryTest)

variable {r test} in
/-- Tests that are confined to their counts, and all tests of scenarios of that mode, have a handler
that checks counts. -/
theorem exists_handlerFor_eq_counts (counted : test.countsOnly = true ∨ r.mode = .counts) :
    ∃ sink, r.handlerFor test = .counts sink := by
  unfold handlerFor overridesMode
  unfold mode at counted ⊢
  cases handler : r.handler with
  | counts sink => exact ⟨sink, by rw [Handler.mode, bne_self_eq_false, Bool.and_false]; rfl⟩
  | compare | generate | execute =>
      rcases counted with confined | inMode
      · exact ⟨r.sink, by rw [confined]; rfl⟩
      · rw [handler] at inMode
        cases inMode

variable {r test} in
/-- Where counts are checked, an execution goes well if it returns a table with the right ones. -/
theorem goesWell_iff_hasCheckedCounts (counted : test.countsOnly = true ∨ r.mode = .counts)
    {e : Execution} : (r.handlerFor test).GoesWell e.statement e.answer ↔
      ∃ t, e.answer = .ok (.table t) ∧ t.HasCheckedCounts e.statement := by
  unfold Handler.GoesWell
  simp only [checkExecution_handlerFor, if_pos counted, Statement.checkCounts,
    Statement.checkTable_eq_none_iff]

/-- A test of which only the counts are checked passes if and only if all its executions were made
and returned tables with the right checked counts, whatever the sink does. It passes in spite of a
wrong declared count if and only if one of these tables misses a number of changed rows that was
declared beside the number of rows. -/
theorem runTest_countsChecked (s : RunState ε κ)
    (counted : test.countsOnly = true ∨ r.mode = .counts) :
    let made := executions (r.testCalls engine test s)
    ∃ result, (r.runTest engine test s).results = s.results ++ [result] ∧
      (result.isSuccess = true ↔ AllReturned test made Table.HasCheckedCounts) ∧
      (result.isSuccess = true ∧ ¬AllReturned test made Table.HasDeclaredCounts ↔
        AllReturned test made Table.HasCheckedCounts ∧
          ∃ e ∈ made, ∃ t, e.answer = .ok (.table t) ∧ t.MissesUpdateCount e.statement) := by
  intro made
  obtain ⟨testId, begun, passed, before, asked, handled, ended, planned, executed, handling,
    results, -⟩ := r.runTest_trace engine test s
  have success : (handled.finish ended).isSuccess = true ↔
      AllReturned test made Table.HasCheckedCounts := by
    obtain ⟨sink, counts⟩ := exists_handlerFor_eq_counts counted
    rw [counts] at handling
    have passes : (handled.finish ended).isSuccess = (settle before).isSuccess :=
      handling.isSuccess_of_counts
    rw [passes, executed.isSuccess_settle_iff planned]
    simp only [← goesWell_iff_hasCheckedCounts counted, AllReturned]
    exact ⟨fun well => ⟨planned.whole well, well⟩, And.right⟩
  refine ⟨handled.finish ended, results, success, ?_⟩
  rw [success]
  exact and_congr_right fun all => all.not_declared_iff

/-- A statement that is to return one row and to change five, and the table of an engine that
changed three. -/
theorem runTest_countsChecked_of_two_counts :
    let statement : Statement := ⟨"UPDATE people SET name = 'bob'", 1, some 1, some 5⟩
    let test : QueryTest := ⟨"people", "rename", [statement]⟩
    let changed : Table := ⟨["id"], ["integer"], [[.integer 1]], some 3, 1⟩
    let r : Runner Unit := .ofHandler .execute (.ofSink { report := fun _ _ s => ⟨.ok (), s⟩ })
    let s : RunState (List Outcome) Unit :=
      ⟨[.table changed], (), .new, .empty "regression", [], [], none⟩
    (test.countsOnly = true ∨ r.mode = .counts) ∧ ¬changed.HasDeclaredCounts statement ∧
      ∃ result, (r.runTest replaying test s).results = [result] ∧ result.isSuccess = true ∧
        ¬AllReturned test (executions (r.testCalls replaying test s)) Table.HasDeclaredCounts := by
  intro statement test changed r s
  have made : executions (r.testCalls replaying test s) =
      [⟨statement, .ok (.table changed), false⟩] := by decide +kernel
  have counted : test.countsOnly = true ∨ r.mode = .counts := .inl rfl
  have checked : changed.HasCheckedCounts statement :=
    ⟨fun _ declared => Option.some.inj declared, nofun⟩
  have misses : changed.MissesUpdateCount statement := ⟨rfl, 5, rfl, nofun⟩
  obtain ⟨result, results, -, wrong⟩ := runTest_countsChecked r replaying test s counted
  obtain ⟨success, short⟩ := wrong.mpr (by
    rw [made]
    refine ⟨⟨rfl, ?_⟩, _, List.mem_singleton.mpr rfl, changed, rfl, misses⟩
    intro e member
    rw [List.mem_singleton.mp member]
    exact ⟨changed, rfl, checked⟩)
  exact ⟨counted, checked.not_declared_iff.mpr misses, result, results, success, short⟩

end Runner
end QueryRegression
