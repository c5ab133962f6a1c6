import QueryRegression.Comparison
import QueryRegression.Proofs.FailureLog
import QueryRegression.Proofs.Grid

/-!
# The verdict of a comparison

Whatever two outcomes are compared, the verdict is that of a log of some failures
(`Policy.ofFailures_of_compare`). So what is known of logs holds of all comparisons: the failures
that are shown are at most as many as a log stores, and there are some unless the verdict is a pass.
-/

namespace QueryRegression

namespace Verdict

/-- The verdict is that of a log of some failures. -/
def OfFailures (verdict : Verdict) : Prop :=
  ∃ failures, verdict = (FailureLog.ofList failures).verdict

variable {verdict : Verdict}

theorem ofFailures_pass : pass.OfFailures := ⟨[], rfl⟩

theorem ofFailures_failed (failure : Failure) : (failed failure).OfFailures := ⟨[failure], rfl⟩

theorem OfFailures.length_failures_le (h : verdict.OfFailures) :
    verdict.failures.length ≤ FailureLog.limit := by
  obtain ⟨failures, rfl⟩ := h
  rw [FailureLog.failures_verdict]
  split
  next few => exact few
  next more =>
    have positive : 0 < FailureLog.limit := by decide
    rw [List.length_append, List.length_take, List.length_singleton]
    omega

theorem OfFailures.failures_ne_nil (h : verdict.OfFailures) (failed : verdict ≠ pass) :
    verdict.failures ≠ [] := by
  obtain ⟨failures, rfl⟩ := h
  rw [FailureLog.failures_verdict]
  split
  · rintro rfl
    exact failed FailureLog.verdict_ofList_nil
  · exact List.append_ne_nil_of_right_ne_nil _ (List.cons_ne_nil _ _)

theorem isSome_message? (failed : verdict ≠ pass) : verdict.message?.isSome = true := by
  cases verdict with
  | pass => exact absurd rfl failed
  | failed failure => rfl
  | multiFailed log => rfl

end Verdict

namespace Policy

variable {p : Policy} {isOrdered : Bool} {verdict : Verdict} {c : Comparison}

/-- A comparison that is needed returns what it answers, if it does. -/
theorem compare_eq_ok_iff {actual expected : Outcome} :
    p.compare actual expected isOrdered = .ok c ↔
      p.compare? actual expected isOrdered = some (.ok c) := by
  unfold compare
  cases p.compare? actual expected isOrdered with
  | none => exact ⟨nofun, nofun⟩
  | some answer => rw [Option.getD_some, Option.some_inj]

theorem ofFailures_of_compareGrid {actual expected : Table}
    {actualRows expectedRows : List IndexedRow}
    (compared : Table.compareGrid p actual actualRows expected expectedRows = .ok verdict) :
    verdict.OfFailures := by
  unfold Table.compareGrid at compared
  split at compared
  · cases compared
    exact Verdict.ofFailures_failed _
  · split at compared
    · cases compared
      exact Verdict.ofFailures_failed _
    · cases cells : Table.compareCells p .empty (Table.cellPairs actualRows expectedRows) with
      | error e => rw [cells] at compared; cases compared
      | ok log =>
          obtain ⟨-, found⟩ := Table.compareCells_eq_ok_iff.mp cells
          rw [cells] at compared
          cases compared
          exact ⟨_, congrArg FailureLog.verdict found⟩

theorem ofFailures_compareUpdateCounts (actual expected : Option Nat) :
    (compareUpdateCounts actual expected).OfFailures := by
  unfold compareUpdateCounts
  split
  · exact Verdict.ofFailures_pass
  · split
    · exact Verdict.ofFailures_pass
    · exact Verdict.ofFailures_failed _

theorem ofFailures_of_tableVerdict? {actual expected : Table}
    (decided : p.tableVerdict? actual expected isOrdered = some (.ok verdict)) :
    verdict.OfFailures := by
  unfold tableVerdict? at decided
  split at decided
  · obtain ⟨rows, -, compared⟩ := Option.bind_eq_some_iff.mp decided
    exact ofFailures_of_compareGrid (Option.some.inj compared)
  · split at decided
    · cases decided
      exact Verdict.ofFailures_failed _
    · cases decided
      exact ofFailures_compareUpdateCounts _ _

theorem ofFailures_of_compareTables? {actual expected : Table}
    (compared : p.compareTables? actual expected isOrdered = some (.ok c)) :
    c.verdict.OfFailures := by
  unfold compareTables? at compared
  split at compared
  · cases compared
  · cases compared
  · obtain ⟨answer, decided, mapped⟩ := Option.bind_eq_some_iff.mp compared
    cases answer with
    | error e => cases mapped
    | ok verdict =>
        cases mapped
        exact ofFailures_of_tableVerdict? decided

/-- Every comparison ends in the verdict of a log. -/
theorem ofFailures_of_compare {actual expected : Outcome}
    (compared : p.compare actual expected isOrdered = .ok c) : c.verdict.OfFailures := by
  rw [compare_eq_ok_iff] at compared
  match actual, expected with
  | .table a, .table e => exact ofFailures_of_compareTables? compared
  | .table a, .exception e =>
      cases compared
      exact Verdict.ofFailures_failed _
  | .exception a, .table e =>
      cases compared
      exact Verdict.ofFailures_failed _
  | .exception a, .exception e =>
      simp only [compare?, compareUsing?] at compared
      cases matched : a.compareWith .standard e with
      | error e => rw [matched] at compared; cases compared
      | ok complaint =>
          rw [matched] at compared
          cases compared
          cases complaint with
          | none => exact Verdict.ofFailures_pass
          | some failure => exact Verdict.ofFailures_failed failure

end Policy
end QueryRegression
