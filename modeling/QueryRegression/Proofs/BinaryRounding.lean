import QueryRegression.Number.Binary

/-!
# Rounding keeps the order

Rounding to the nearest number of a binary format never turns two values round, though it may make
them equal.

* `BinaryFormat.round_le_round`: magnitudes.
* `Binary.rank_ofInt_le`: integers, in the total order of bit patterns.
* `Binary.lt_of_ofInt_lt`: integers that differ as binary numbers stand in the same order.
-/

namespace QueryRegression

namespace Number

/-- A quotient is rounded up if the remainder is more than half of the divisor, or half of it beside
an odd number. -/
theorem divHalfEven_eq (n d : Nat) :
    divHalfEven n d =
      if d < 2 * (n % d) ∨ 2 * (n % d) = d ∧ n / d % 2 = 1 then n / d + 1 else n / d := by
  unfold divHalfEven
  dsimp only
  repeat' split
  all_goals omega

theorem div_le_divHalfEven (n d : Nat) : n / d ≤ divHalfEven n d := by
  rw [divHalfEven_eq]
  split <;> omega

theorem divHalfEven_le_div_add_one (n d : Nat) : divHalfEven n d ≤ n / d + 1 := by
  rw [divHalfEven_eq]
  split <;> omega

theorem divHalfEven_le_divHalfEven {m n : Nat} (d : Nat) (le : m ≤ n) :
    divHalfEven m d ≤ divHalfEven n d := by
  have quotients : m / d ≤ n / d := Nat.div_le_div_right le
  by_cases apart : m / d < n / d
  · have upper := divHalfEven_le_div_add_one m d
    have lower := div_le_divHalfEven n d
    omega
  · -- Between the same neighbours, the remainders decide.
    have same : m / d = n / d := by omega
    have first := Nat.div_add_mod m d
    have second := Nat.div_add_mod n d
    rw [same] at first
    have remainders : m % d ≤ n % d := by omega
    rw [divHalfEven_eq, divHalfEven_eq, same]
    split <;> split <;> omega

theorem log2_le_log2 {m n : Nat} (le : m ≤ n) : m.log2 ≤ n.log2 := by
  by_cases zero : m = 0
  · rw [zero, Nat.log2_zero]
    exact Nat.zero_le _
  · exact (Nat.le_log2 (by omega)).mpr (Nat.le_trans (Nat.log2_self_le zero) le)

end Number

namespace BinaryFormat

open Number

variable (f : BinaryFormat)

/-- The exponent of the binade of a quotient, counted from that of the least one. -/
def binade (n d : Nat) : Nat := (n / d).log2 - f.fractionBits

/-- In its binade a quotient is less than twice the greatest fraction. -/
theorem lt_of_binade (n d : Nat) :
    n / (d * 2 ^ f.binade n d) < 2 ^ (f.fractionBits + 1) := by
  have below : n / d < 2 ^ ((n / d).log2 + 1) := Nat.lt_log2_self
  have exponents : (n / d).log2 + 1 ≤ f.fractionBits + 1 + f.binade n d := by
    unfold binade
    omega
  have bound := Nat.lt_of_lt_of_le below (Nat.pow_le_pow_right (by decide) exponents)
  rw [Nat.pow_add] at bound
  rw [← Nat.div_div_eq_div_mul, Nat.div_lt_iff_lt_mul (Nat.two_pow_pos _)]
  exact bound

/-- Above the least binade a quotient is at least the power of its binade. -/
theorem le_of_binade_pos {n d : Nat} (above : 0 < f.binade n d) :
    2 ^ f.fractionBits ≤ n / (d * 2 ^ f.binade n d) := by
  have nonzero : n / d ≠ 0 := by
    intro zero
    rw [binade, zero, Nat.log2_zero] at above
    omega
  have exponents : f.fractionBits + f.binade n d = (n / d).log2 := by
    unfold binade at above ⊢
    omega
  rw [← Nat.div_div_eq_div_mul, Nat.le_div_iff_mul_le (Nat.two_pow_pos _), ← Nat.pow_add, exponents]
  exact Nat.log2_self_le nonzero

/-- Rounding magnitudes keeps their order. -/
theorem round_le_round {m n : Nat} (d : Nat) (le : m ≤ n) : f.round m d ≤ f.round n d := by
  have binades : f.binade m d ≤ f.binade n d := by
    have logs := log2_le_log2 (Nat.div_le_div_right (c := d) le)
    unfold binade
    omega
  have unbounded : f.binade m d * 2 ^ f.fractionBits + divHalfEven m (d * 2 ^ f.binade m d) ≤
      f.binade n d * 2 ^ f.fractionBits + divHalfEven n (d * 2 ^ f.binade n d) := by
    by_cases same : f.binade m d = f.binade n d
    · rw [same]
      exact Nat.add_le_add_left (divHalfEven_le_divHalfEven _ le) _
    · -- The next binade begins where this one ends.
      have upper := divHalfEven_le_div_add_one m (d * 2 ^ f.binade m d)
      have lower := div_le_divHalfEven n (d * 2 ^ f.binade n d)
      have first := f.lt_of_binade m d
      have second := f.le_of_binade_pos (d := d) (n := n) (by omega)
      have steps : (f.binade m d + 1) * 2 ^ f.fractionBits ≤ f.binade n d * 2 ^ f.fractionBits :=
        Nat.mul_le_mul_right _ (by omega)
      rw [Nat.add_mul, Nat.one_mul] at steps
      rw [Nat.pow_succ] at first
      omega
  exact Nat.le_min.mpr ⟨Nat.le_trans (Nat.min_le_left _ _) unbounded, Nat.min_le_right _ _⟩

end BinaryFormat

namespace Binary

/-- Integers as binary numbers keep their order. -/
theorem rank_ofInt_le {f : BinaryFormat} {m n : Int} (le : m ≤ n) :
    (ofInt m : Binary f).rank ≤ (ofInt n : Binary f).rank := by
  have magnitudes : ∀ {a b : Nat}, a ≤ b → f.round (a * f.one) 1 ≤ f.round (b * f.one) 1 :=
    fun below => f.round_le_round 1 (Nat.mul_le_mul_right _ below)
  simp only [rank, ofInt, ofRatio, ofUnits, decide_eq_true_eq]
  split
  next negative =>
    split
    next negative' =>
      have := magnitudes (a := n.natAbs) (b := m.natAbs) (by omega)
      omega
    next => omega
  next =>
    split
    next => omega
    next =>
      have := magnitudes (a := m.natAbs) (b := n.natAbs) (by omega)
      omega

variable {f : BinaryFormat} {x y : Binary f}

/-- The total order of bit patterns refines the numeric order. -/
theorem position_le_of_rank_le (le : x.rank ≤ y.rank) : x.position ≤ y.position := by
  unfold rank at le
  unfold position
  cases left : x.negative <;> cases right : y.negative <;> simp [left, right] at le ⊢ <;> omega

/-- Integers that are distinct may be equal as binary numbers. Where they are not, their order is
that of the binary numbers. -/
theorem lt_of_ofInt_lt {m n : Int} (below : (ofInt m : Binary f).lt (ofInt n) = true) : m < n := by
  apply Int.lt_of_not_ge
  intro turned
  have places := position_le_of_rank_le (rank_ofInt_le (f := f) turned)
  simp only [lt, Bool.and_eq_true, decide_eq_true_eq] at below
  omega

theorem ofInt_natCast (n : Nat) : (ofInt n : Binary f) = ofNat n := by
  have nonnegative : decide ((n : Int) < 0) = false :=
    decide_eq_false (Int.not_lt.mpr (Int.natCast_nonneg n))
  rw [ofInt, nonnegative]
  rfl

/-- Rounding goes up to infinity and not beyond. -/
theorem isNaN_ofInt (n : Int) : (ofInt n : Binary f).isNaN = false :=
  decide_eq_false (Nat.not_lt.mpr (f.round_le _ _))

theorem isNaN_ofNat (n : Nat) : (ofNat n : Binary f).isNaN = false :=
  ofInt_natCast (f := f) n ▸ isNaN_ofInt n

theorem le_eq_false_iff (left : x.isNaN = false) (right : y.isNaN = false) :
    x.le y = false ↔ y.lt x = true := by
  simp [le, lt, left, right]

end Binary
end QueryRegression
