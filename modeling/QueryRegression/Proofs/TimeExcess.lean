import QueryRegression.Policy
import QueryRegression.Proofs.BinaryRounding

/-!
# The excess over the expected time

The check of times compares doubles, to which the times are rounded, and reports the difference of
the times themselves. Distinct times may be equal as doubles, so it has to be shown that the
difference is one of unsigned numbers.

* `Policy.FindsExcess`: what the check finds in doubles before it takes the difference.
* `Policy.checkTimes`: the check where a difference below zero is an error.
* `Policy.checkTimes_neverUnderflows`: this error never occurs, and a complaint is only made about a
  query that took longer than expected.
-/

namespace QueryRegression

namespace Number

/-- Two numbers of which the second one is greater, so that they have no unsigned difference. -/
structure Underflow where
  minuend : Nat
  subtrahend : Nat

/-- The difference of unsigned numbers. -/
def difference (m n : Nat) : Except Underflow Nat :=
  if n ≤ m then .ok (m - n) else .error ⟨m, n⟩

end Number

namespace Policy

open Number

variable (p : Policy) (actual expected : Nat)

/-- The part of the expected time by which the actual time may exceed it. -/
def allowedRatio : Binary64 := p.exceedPercent.div (.ofNat 100)

/-- By how much the actual time may exceed the expected one. -/
def allowedExcess : Binary64 := (Binary.ofNat expected).mul p.allowedRatio

/-- The complaint about an excess. -/
def excessText (excess : Nat) : String :=
  s!"Actual: {actual} Expected: {expected} Diff: {excess} Allowed %: " ++
    p.allowedRatio.render .plain ++ " (" ++ (p.allowedExcess expected).render .plain ++ ")"

/-- What the check of times finds in doubles before it takes the difference of the times. -/
structure FindsExcess : Prop where
  checked : 0 < p.minimumTime
  aboveMinimum : (Binary.ofInt p.minimumTime : Binary64).lt (.ofNat expected) = true
  /-- A negative percentage allows for less than the expected time, so this does not follow from
  `notAllowed`. -/
  longer : (Binary.ofNat expected : Binary64).lt (.ofNat actual) = true
  notAllowed :
    (Binary.ofNat expected).lt ((Binary.ofNat actual).sub (p.allowedExcess expected)) = true

instance : Decidable (p.FindsExcess actual expected) :=
  decidable_of_iff (0 < p.minimumTime ∧ _ = true ∧ _ = true ∧ _ = true)
    ⟨fun ⟨checked, aboveMinimum, longer, notAllowed⟩ =>
        ⟨checked, aboveMinimum, longer, notAllowed⟩,
      fun found => ⟨found.checked, found.aboveMinimum, found.longer, found.notAllowed⟩⟩

/-- The check of times in the arithmetic of unsigned numbers, where differences can fail. -/
def checkTimes : Except Underflow (Option String) :=
  if p.FindsExcess actual expected then do
    let excess ← difference actual expected
    return some (p.excessText actual expected excess)
  else
    return none

variable {p actual expected}

namespace FindsExcess

theorem minimum_lt (found : p.FindsExcess actual expected) : p.minimumTime < expected := by
  have above := found.aboveMinimum
  rw [← Binary.ofInt_natCast] at above
  exact Binary.lt_of_ofInt_lt above

theorem lt (found : p.FindsExcess actual expected) : expected < actual := by
  have longer := found.longer
  rw [← Binary.ofInt_natCast, ← Binary.ofInt_natCast] at longer
  exact Int.ofNat_lt.mp (Binary.lt_of_ofInt_lt longer)

end FindsExcess

variable (p actual expected)

theorem timeExcess?_eq : p.timeExcess? actual expected =
    if p.FindsExcess actual expected then
      some (p.excessText actual expected (actual - expected))
    else none := by
  -- Times are numbers even as doubles, so those that are not less or equal are greater.
  have aboveMinimum := Binary.le_eq_false_iff (f := .double) (Binary.isNaN_ofNat expected)
    (Binary.isNaN_ofInt p.minimumTime)
  have longer := Binary.le_eq_false_iff (f := .double) (Binary.isNaN_ofNat actual)
    (Binary.isNaN_ofNat expected)
  rw [timeExcess?]
  dsimp only
  by_cases unchecked : p.minimumTime ≤ 0
  · rw [if_pos unchecked, if_neg]
    intro found
    exact Int.not_lt.mpr unchecked found.checked
  rw [if_neg unchecked]
  split
  next passed =>
    rw [if_neg]
    intro found
    simp [aboveMinimum.mpr found.aboveMinimum, longer.mpr found.longer] at passed
  next passed =>
    rw [Bool.not_eq_true, Bool.or_eq_false_iff] at passed
    split
    next beyond =>
      rw [if_pos]
      · rfl
      · exact ⟨Int.not_le.mp unchecked, aboveMinimum.mp passed.1, longer.mp passed.2, beyond⟩
    next within => rw [if_neg fun found => within found.notAllowed]

/-- The check takes the difference of the times only where the minimum is positive and less than the
expected time, and this time is less than the actual one. So taking it never fails, and there is a
complaint, which states it, if and only if it is taken. -/
theorem checkTimes_neverUnderflows :
    p.checkTimes actual expected = .ok (p.timeExcess? actual expected) ∧
      (p.FindsExcess actual expected →
        0 < p.minimumTime ∧ p.minimumTime < expected ∧ expected < actual) ∧
      ∀ message, p.timeExcess? actual expected = some message ↔
        p.FindsExcess actual expected ∧
          message = p.excessText actual expected (actual - expected) := by
  rw [timeExcess?_eq, checkTimes]
  by_cases found : p.FindsExcess actual expected
  · have reported : difference actual expected = .ok (actual - expected) :=
      if_pos (Nat.le_of_lt found.lt)
    rw [if_pos found, if_pos found, reported]
    refine ⟨rfl, fun _ => ⟨found.checked, found.minimum_lt, found.lt⟩, fun message => ?_⟩
    simp [found, eq_comm]
  · rw [if_neg found, if_neg found]
    exact ⟨rfl, fun other => absurd other found, fun message => by simp [found]⟩

/-- Times that differ by two and are rounded to doubles that differ by four. -/
theorem checkTimes_neverUnderflows_of_rounded_times :
    let p := exact.withTimeCheck .zero 1
    let expected : Nat := 2 ^ 53 + 1
    let actual : Nat := 2 ^ 53 + 3
    p.FindsExcess actual expected ∧
      (0 < p.minimumTime ∧ p.minimumTime < expected ∧ expected < actual) ∧
      p.checkTimes actual expected = .ok (some
        "Actual: 9007199254740995 Expected: 9007199254740993 Diff: 2 Allowed %: 0 (0)") := by
  intro p expected actual
  have found : p.FindsExcess actual expected := by decide +kernel
  obtain ⟨unfailing, positive, complaint⟩ := checkTimes_neverUnderflows p actual expected
  refine ⟨found, positive found, ?_⟩
  rw [unfailing]
  exact congrArg Except.ok ((complaint _).mpr ⟨found, by decide +kernel⟩)

-- Times that are equal as doubles are not complained about, even if the percentage is infinitely
-- far below zero.
example : (exact.withTimeCheck (.infinite true) 1).timeExcess? (2 ^ 53 + 1) (2 ^ 53) = none := by
  decide +kernel

end Policy
end QueryRegression
