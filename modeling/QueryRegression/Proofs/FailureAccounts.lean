import QueryRegression.Proofs.FailureLog

/-!
# What a log accounts for, however it is used

A log is used in steps: a failure is added, or what the log shows is read. After any steps the log
and its verdict account for the failures that were added (`LogAccount`), and each reading shows
those that were added before it; see `LogSession.ofSteps_account`.

The step lemmas are `FailureLog.ofList_concat` for an addition and `FailureLog.failures_ofList` for
a reading; `LogSession.foldl_perform` chains them.
-/

namespace QueryRegression

/-- One use of a log. -/
inductive LogStep where
  | add (failure : Failure)
  /-- Reads the failures that the log shows. -/
  | read

/-- A log in use, and what was read from it. -/
structure LogSession where
  log : FailureLog
  readings : List (List Failure)

namespace LogSession

/-- The session after one more step. -/
def perform (session : LogSession) : LogStep → LogSession
  | .add failure => { session with log := session.log.add failure }
  | .read => { session with readings := session.readings ++ [session.log.failures] }

/-- The session that begins with an empty log and takes the given steps. -/
def ofSteps (steps : List LogStep) : LogSession := steps.foldl perform ⟨.empty, []⟩

end LogSession

/-- The failure that a step adds. -/
def LogStep.added? : LogStep → Option Failure
  | .add failure => some failure
  | .read => none

/-- What is to be shown of failures: all of them, or the first ones and the number of the others. -/
def shownFailures (failures : List Failure) : List Failure :=
  if failures.length ≤ 2000 then failures
  else failures.take 1999 ++ [⟨.truncated, s!"(+{failures.length - 2000} more failures)", none⟩]

/-- What the readings among some steps are to show, where `earlier` failures were added before. -/
def shownAlong (earlier : List Failure) : List LogStep → List (List Failure)
  | [] => []
  | .add failure :: steps => shownAlong (earlier ++ [failure]) steps
  | .read :: steps => shownFailures earlier :: shownAlong earlier steps

/-- The message of a verdict on failures: that of the first one, and the number of the others. -/
def verdictMessage? : List Failure → Option String
  | [] => none
  | [failure] => some failure.message
  | first :: others => some (first.message ++ s!" (+{others.length} more failures)")

/-- A log accounts for the failures that were added to it, and so does its verdict. -/
structure LogAccount (failures : List Failure) (log : FailureLog) : Prop where
  total : log.total = failures.length
  shown : log.failures = shownFailures failures
  /-- Nothing is a pass, one failure stands alone, and several ones stay in the log. -/
  verdict : log.verdict =
    match failures with
    | [] => .pass
    | [failure] => .failed failure
    | _ => .multiFailed log
  isPass : log.verdict.isPass = true ↔ failures.length = 0
  verdictTotal : log.verdict.totalFailures = failures.length
  verdictShown : log.verdict.failures = shownFailures failures
  message : log.verdict.message? = verdictMessage? failures

namespace FailureLog

theorem ofList_concat (failures : List Failure) (failure : Failure) :
    ofList (failures ++ [failure]) = (ofList failures).add failure := by
  rw [ofList, ofList, List.foldl_append]
  rfl

theorem message_ofList (first : Failure) (others : List Failure) :
    (ofList (first :: others)).message =
      first.message ++ s!" (+{others.length} more failures)" := by
  have words : " " ++ moreFailures others.length = s!" (+{others.length} more failures)" := by
    rw [moreFailures, ← String.append_assoc, ← String.append_assoc]
    rfl
  rw [ofList_eq, message, ← words, ← String.append_assoc]
  rfl

theorem account_ofList (failures : List Failure) : LogAccount failures (ofList failures) where
  total := by rw [ofList_eq]
  shown := failures_ofList failures
  verdict := by
    match failures with
    | [] => exact verdict_ofList_nil
    | [failure] => exact verdict_ofList_singleton failure
    | _ :: _ :: others => exact verdict_ofList_of_two_le _ (Nat.le_add_left 2 others.length)
  isPass := by
    rw [← verdict_eq_pass_iff]
    cases (ofList failures).verdict <;> simp [Verdict.isPass]
  verdictTotal := totalFailures_verdict failures
  verdictShown := failures_verdict failures
  message := by
    match failures with
    | [] => rfl
    | [failure] => rfl
    | first :: second :: others =>
        have several : 2 ≤ (first :: second :: others).length := Nat.le_add_left 2 others.length
        rw [verdict_ofList_of_two_le _ several, Verdict.message?, message_ofList]
        rfl

end FailureLog

namespace LogSession

open FailureLog

/-- A session goes on from any failures by adding those of its steps. -/
theorem foldl_perform (earlier : List Failure) (readings : List (List Failure))
    (steps : List LogStep) :
    steps.foldl perform ⟨ofList earlier, readings⟩ =
      ⟨ofList (earlier ++ steps.filterMap LogStep.added?),
        readings ++ shownAlong earlier steps⟩ := by
  induction steps generalizing earlier readings with
  | nil => simp [shownAlong]
  | cons step steps ih =>
      cases step with
      | add failure =>
          rw [List.foldl_cons, perform, ← ofList_concat, ih, List.append_assoc]
          rfl
      | read =>
          have shown : (ofList earlier).failures = shownFailures earlier := failures_ofList earlier
          rw [List.foldl_cons, perform, shown, ih, List.append_assoc]
          rfl

/-- However a log is used, it accounts for the failures that were added, and each reading shows
those that were added before it. -/
theorem ofSteps_account (steps : List LogStep) :
    LogAccount (steps.filterMap LogStep.added?) (ofSteps steps).log ∧
      (ofSteps steps).readings = shownAlong [] steps := by
  have session : ofSteps steps = _ := foldl_perform [] [] steps
  rw [session, List.nil_append, List.nil_append]
  exact ⟨account_ofList _, rfl⟩

end LogSession
end QueryRegression
