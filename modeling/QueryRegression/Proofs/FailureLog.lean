import QueryRegression.Failure.Log

/-!
# What a log and its verdict tell of the failures that were found

A log that was filled with a list of failures holds the first of them up to the limit and the
number of all (`FailureLog.ofList_eq`). What its verdict tells follows from that alone:
`FailureLog.totalFailures_verdict`, `FailureLog.stored_verdict` and `FailureLog.failures_verdict`.
-/

namespace QueryRegression

/-- The failures that a verdict holds. -/
def Verdict.stored : Verdict → List Failure
  | .pass => []
  | .failed failure => [failure]
  | .multiFailed log => log.stored.toList

namespace FailureLog

/-- One more failure is held if there is room for it, and counted in any case. -/
theorem add_ofTake (earlier : List Failure) (failure : Failure) :
    add ⟨(earlier.take limit).toArray, earlier.length⟩ failure =
      ⟨((earlier ++ [failure]).take limit).toArray, (earlier ++ [failure]).length⟩ := by
  rw [add, List.size_toArray, List.length_take, List.length_append, List.take_append]
  by_cases room : earlier.length < limit
  · rw [if_pos (by omega), List.push_toArray, List.take_of_length_le (Nat.le_of_lt room)]
    have rest : [failure].take (limit - earlier.length) = [failure] :=
      List.take_of_length_le (by rw [List.length_singleton]; omega)
    rw [rest]
    rfl
  · have full : limit - earlier.length = 0 := by omega
    rw [if_neg (by omega), full, List.take_zero, List.append_nil]
    rfl

theorem foldl_add (earlier later : List Failure) :
    later.foldl add ⟨(earlier.take limit).toArray, earlier.length⟩ =
      ⟨((earlier ++ later).take limit).toArray, (earlier ++ later).length⟩ := by
  induction later generalizing earlier with
  | nil => rw [List.foldl_nil, List.append_nil]
  | cons failure later ih =>
      rw [List.foldl_cons, add_ofTake, ih, List.append_assoc]
      rfl

/-- A log holds the first failures up to the limit and counts all. -/
theorem ofList_eq (failures : List Failure) :
    ofList failures = ⟨(failures.take limit).toArray, failures.length⟩ :=
  foldl_add [] failures

variable (failures : List Failure)

theorem verdict_ofList_nil : (ofList []).verdict = .pass := rfl

theorem verdict_ofList_singleton (failure : Failure) :
    (ofList [failure]).verdict = .failed failure := rfl

theorem verdict_ofList_of_two_le (several : 2 ≤ failures.length) :
    (ofList failures).verdict = .multiFailed (ofList failures) := by
  have total : (ofList failures).total = failures.length := by rw [ofList_eq]
  unfold verdict
  split
  · omega
  · omega
  · rfl

/-- The three forms of a verdict, by the number of failures. -/
theorem verdict_cases :
    (failures = [] ∧ (ofList failures).verdict = .pass) ∨
      (∃ failure, failures = [failure] ∧ (ofList failures).verdict = .failed failure) ∨
      (2 ≤ failures.length ∧ (ofList failures).verdict = .multiFailed (ofList failures)) := by
  match failures with
  | [] => exact .inl ⟨rfl, verdict_ofList_nil⟩
  | [failure] => exact .inr (.inl ⟨failure, rfl, verdict_ofList_singleton failure⟩)
  | first :: second :: rest =>
      have several : 2 ≤ (first :: second :: rest).length := Nat.le_add_left 2 rest.length
      exact .inr (.inr ⟨several, verdict_ofList_of_two_le _ several⟩)

theorem verdict_eq_pass_iff : (ofList failures).verdict = .pass ↔ failures.length = 0 := by
  rcases verdict_cases failures with ⟨rfl, is⟩ | ⟨failure, rfl, is⟩ | ⟨several, is⟩ <;> rw [is]
  · exact ⟨fun _ => rfl, fun _ => rfl⟩
  · exact ⟨nofun, nofun⟩
  · exact ⟨nofun, fun none => by omega⟩

theorem verdict_eq_failed_iff :
    (∃ failure, (ofList failures).verdict = .failed failure) ↔ failures.length = 1 := by
  rcases verdict_cases failures with ⟨rfl, is⟩ | ⟨failure, rfl, is⟩ | ⟨several, is⟩ <;> rw [is]
  · exact ⟨nofun, nofun⟩
  · exact ⟨fun _ => rfl, fun _ => ⟨failure, rfl⟩⟩
  · exact ⟨nofun, fun one => by omega⟩

theorem verdict_eq_multiFailed_iff :
    (∃ log, (ofList failures).verdict = .multiFailed log) ↔ 2 ≤ failures.length := by
  rcases verdict_cases failures with ⟨rfl, is⟩ | ⟨failure, rfl, is⟩ | ⟨several, is⟩ <;> rw [is]
  · exact ⟨nofun, nofun⟩
  · exact ⟨nofun, nofun⟩
  · exact ⟨fun _ => several, fun _ => ⟨_, rfl⟩⟩

/-- Every failure counts. -/
theorem totalFailures_verdict : (ofList failures).verdict.totalFailures = failures.length := by
  rcases verdict_cases failures with ⟨rfl, is⟩ | ⟨failure, rfl, is⟩ | ⟨-, is⟩
  · rfl
  · rfl
  · rw [is, ofList_eq]
    rfl

/-- The failures held are the first ones, in the order in which they were found. -/
theorem stored_verdict : (ofList failures).verdict.stored = failures.take limit := by
  rcases verdict_cases failures with ⟨rfl, is⟩ | ⟨failure, rfl, is⟩ | ⟨-, is⟩
  · rfl
  · rfl
  · rw [is, ofList_eq]
    rfl

/-- Up to the limit all failures are shown. Beyond it the last one shown makes room for the number
of those that are not. -/
theorem failures_ofList :
    (ofList failures).failures =
      if failures.length ≤ limit then failures
      else failures.take (limit - 1) ++
        [.general .truncated (moreFailures (failures.length - limit))] := by
  rw [FailureLog.failures, ofList_eq]
  dsimp only
  by_cases few : failures.length ≤ limit
  · rw [if_pos few, if_neg fun more => Nat.not_lt.mpr few more.1]
    exact List.take_of_length_le few
  · have more := Nat.not_le.mp few
    have nonempty : ¬(failures.take limit).toArray.isEmpty := by
      rw [List.isEmpty_toArray, List.isEmpty_iff, ← List.length_eq_zero_iff, List.length_take,
        Nat.min_eq_left (Nat.le_of_lt more)]
      decide
    rw [if_neg few, if_pos ⟨more, nonempty⟩, List.pop_toArray, List.dropLast_take more]

/-- A verdict shows the same failures as its log. -/
theorem failures_verdict_ofList :
    (ofList failures).verdict.failures = (ofList failures).failures := by
  rcases verdict_cases failures with ⟨rfl, is⟩ | ⟨failure, rfl, is⟩ | ⟨-, is⟩
  · rfl
  · rfl
  · rw [is, Verdict.failures]

theorem failures_verdict :
    (ofList failures).verdict.failures =
      if failures.length ≤ limit then failures
      else failures.take (limit - 1) ++
        [.general .truncated (moreFailures (failures.length - limit))] := by
  rw [failures_verdict_ofList, failures_ofList]

end FailureLog
end QueryRegression
