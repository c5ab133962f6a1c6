import QueryRegression.Proofs.BinaryRounding
import QueryRegression.Proofs.ValueOrder

/-!
# Sums of decimals keep the order

A sum of decimals is rounded to the most places that fit, so two sums may be rounded to different
places, and each is tried from the places of its own terms on. Even so, the greater of two exact
sums is never rounded to the lesser value (`Decimal.add?_le_add?`), and a sum exists if it does with
a second term that is farther from zero (`Decimal.exists_add?_of_closer`).

Values are counted in units of the last place that a decimal can have.
-/

namespace QueryRegression

namespace Number

/-- Rounding depends on the value of a quotient alone. -/
theorem divHalfEven_mul_right (n d : Nat) {c : Nat} (positive : 0 < c) :
    divHalfEven (n * c) (d * c) = divHalfEven n d := by
  have above : d * c < 2 * (n % d * c) ↔ d < 2 * (n % d) := by
    rw [← Nat.mul_assoc, Nat.mul_lt_mul_right positive]
  have tie : 2 * (n % d * c) = d * c ↔ 2 * (n % d) = d := by
    rw [← Nat.mul_assoc, Nat.mul_right_cancel_iff positive]
  rw [divHalfEven_eq, divHalfEven_eq, Nat.mul_div_mul_right _ _ positive, Nat.mul_mod_mul_right]
  simp only [above, tie]

theorem divHalfEven_mul_self (k : Nat) {d : Nat} (positive : 0 < d) :
    divHalfEven (k * d) d = k := by
  rw [divHalfEven_eq, Nat.mul_mod_left, Nat.mul_div_cancel _ positive]
  exact if_neg (by omega)

/-- A quotient is rounded to an even number or beyond if it is at most half below it: there, a tie
is decided for the even number. -/
theorem le_divHalfEven_iff {n d k : Nat} (positive : 0 < d) (even : k % 2 = 0) :
    k ≤ divHalfEven n d ↔ 2 * k * d ≤ 2 * n + d := by
  have parts := Nat.div_add_mod n d
  have below := Nat.mod_lt n positive
  rw [divHalfEven_eq]
  rcases Nat.lt_trichotomy k (n / d + 1) with small | equal | large
  · -- The quotient is not below the number.
    have product : k * d ≤ n / d * d := Nat.mul_le_mul_right d (by omega)
    rw [Nat.mul_comm] at parts
    refine iff_of_true ?_ (by rw [Nat.mul_assoc]; omega)
    split <;> omega
  · subst equal
    have product : 2 * (n / d + 1) * d = 2 * (d * (n / d)) + 2 * d := by
      rw [Nat.mul_assoc, Nat.add_mul, Nat.mul_comm, Nat.one_mul, Nat.mul_comm d, Nat.add_mul]
      omega
    rw [product]
    split <;> omega
  · have product : (n / d + 2) * d ≤ k * d := Nat.mul_le_mul_right d large
    rw [Nat.add_mul, Nat.mul_comm (n / d)] at product
    refine iff_of_false ?_ (by rw [Nat.mul_assoc]; omega)
    split <;> omega

end Number

namespace Decimal

open Number

/-! ## Values in units -/

/-- The value in units of the last place that a decimal can have. -/
def units (d : Decimal) : Int := d.coefficient * 10 ^ (maxScale - d.scale)

/-- What the last one of some places is worth. -/
def unit (places : Nat) : Nat := 10 ^ (maxScale - places)

theorem unit_pos (places : Nat) : 0 < unit places := Nat.pow_pos (by decide)

theorem unit_succ {places : Nat} (below : places < maxScale) :
    unit places = 10 * unit (places + 1) := by
  unfold unit
  rw [← Nat.pow_succ']
  congr 1
  omega

theorem unit_dvd_unit {p q : Nat} (le : p ≤ q) : unit q ∣ unit p :=
  Nat.pow_dvd_pow 10 (by omega)

theorem unit_le_unit {p q : Nat} (le : p ≤ q) : unit q ≤ unit p :=
  Nat.le_of_dvd (unit_pos p) (unit_dvd_unit le)

theorem natAbs_units (d : Decimal) :
    d.units.natAbs = d.coefficient.natAbs * unit d.scale := by
  rw [units, Int.natAbs_mul, Int.natAbs_pow]
  rfl

theorem lt_iff {a b : Decimal} : a.lt b = true ↔ a.units < b.units := by
  rw [lt, beq_iff_eq, compare_eq_compare, Int.compare_eq_lt]
  rfl

theorem isZero_iff {d : Decimal} : d.isZero = true ↔ d.units = 0 := by
  rw [isZero, beq_iff_eq, units, Int.mul_eq_zero]
  exact (or_iff_left (Int.ne_of_gt (Int.pow_pos (by decide)))).symm

theorem units_neg (d : Decimal) : d.neg.units = -d.units := Int.neg_mul ..

theorem units_abs (d : Decimal) : d.abs.units = d.units.natAbs := by
  rw [natAbs_units, Int.natCast_mul, unit, Int.natCast_pow]
  rfl

/-! ## Rounding to places -/

/-- The coefficient of a magnitude that is rounded to some places. -/
def rounded (magnitude places : Nat) : Nat := divHalfEven magnitude (unit places)

theorem rounded_le_rounded {m n : Nat} (places : Nat) (le : m ≤ n) :
    rounded m places ≤ rounded n places :=
  divHalfEven_le_divHalfEven _ le

/-- Where nothing is lost, the rounded magnitude is worth the exact one. -/
theorem rounded_mul_unit {m places : Nat} (exact : unit places ∣ m) :
    rounded m places * unit places = m := by
  obtain ⟨k, rfl⟩ := exact
  rw [rounded, Nat.mul_comm (unit places), divHalfEven_mul_self k (unit_pos places)]

/-- A magnitude that does not fit with some places does not fit with more of them. -/
theorem le_rounded_of_le {m p q : Nat} (le : p ≤ q) (large : 2 ^ 96 ≤ rounded m p) :
    2 ^ 96 ≤ rounded m q := by
  rw [rounded, le_divHalfEven_iff (unit_pos _) (by decide)] at large ⊢
  have units := unit_le_unit le
  omega

/-- A magnitude fits with some places, at most the given ones, and not with one more of these. -/
structure MostPlaces (magnitude places most : Nat) : Prop where
  le : most ≤ places
  fits : rounded magnitude most < 2 ^ 96
  full : most = places ∨ 2 ^ 96 ≤ rounded magnitude (most + 1)

/-- Two magnitudes that are rounded to the most places that fit keep their order, whatever the
places from which each is tried on, if nothing is lost with these. -/
theorem MostPlaces.rounded_mul_unit_le {m n p q r s : Nat} (first : MostPlaces m p r)
    (second : MostPlaces n q s) (le : m ≤ n) (exact : unit p ∣ m) (exact' : unit q ∣ n)
    (places : p ≤ maxScale) : rounded m r * unit r ≤ rounded n s * unit s := by
  have fits := first.fits
  have fits' := second.fits
  rcases Nat.lt_trichotomy r s with fewer | same | more
  · rcases first.full with rfl | large
    · -- The lesser magnitude is exact, and is so with the places of the greater one.
      have kept : unit s ∣ m := Nat.dvd_trans (unit_dvd_unit (Nat.le_of_lt fewer)) exact
      rw [rounded_mul_unit exact, ← rounded_mul_unit kept]
      exact Nat.mul_le_mul_right _ (rounded_le_rounded s le)
    · have := le_rounded_of_le fewer (Nat.le_trans large (rounded_le_rounded _ le))
      omega
  · rw [same]
    exact Nat.mul_le_mul_right _ (rounded_le_rounded s le)
  · rcases second.full with rfl | large
    · have kept : unit r ∣ n := Nat.dvd_trans (unit_dvd_unit (Nat.le_of_lt more)) exact'
      rw [rounded_mul_unit exact', ← rounded_mul_unit kept]
      exact Nat.mul_le_mul_right _ (rounded_le_rounded r le)
    · -- What is too great for one more place is rounded to more than fits with it.
      have tenfold : unit s = 10 * unit (s + 1) :=
        unit_succ (Nat.lt_of_lt_of_le more (Nat.le_trans first.le places))
      have next : (2 ^ 96 + 4) / 10 ≤ rounded n s := by
        rw [rounded, le_divHalfEven_iff (unit_pos _) (by decide)] at large ⊢
        omega
      calc rounded m r * unit r
          ≤ (2 ^ 96 + 4) * unit (s + 1) := Nat.mul_le_mul (by omega) (unit_le_unit more)
        _ = (2 ^ 96 + 4) / 10 * unit s := by omega
        _ ≤ rounded n s * unit s := Nat.mul_le_mul_right _ next

/-- The coefficient of a rounded magnitude of the given sign. -/
def signedRounded (negative : Bool) (magnitude places : Nat) : Int :=
  if negative then -(rounded magnitude places : Int) else rounded magnitude places

theorem natAbs_signedRounded (negative : Bool) (magnitude places : Nat) :
    (signedRounded negative magnitude places).natAbs = rounded magnitude places := by
  unfold signedRounded
  split <;> omega

section Fit

variable {negative : Bool} {magnitude places : Nat}

theorem fit?_of_fits (fits : rounded magnitude places < 2 ^ 96) (le : places ≤ maxScale) :
    fit? negative magnitude maxScale places = some ⟨signedRounded negative magnitude places, places,
      natAbs_signedRounded negative magnitude places ▸ fits, le⟩ := by
  have parts : ofParts? (signedRounded negative magnitude places) places = _ :=
    dif_pos ⟨natAbs_signedRounded negative magnitude places ▸ fits, le⟩
  unfold signedRounded rounded unit at parts
  cases places <;> rw [fit?, parts] <;> rfl

theorem fit?_of_large (large : 2 ^ 96 ≤ rounded magnitude places) :
    fit? negative magnitude maxScale places =
      match places with
      | 0 => none
      | places + 1 => fit? negative magnitude maxScale places := by
  have parts : ofParts? (signedRounded negative magnitude places) places = none :=
    dif_neg fun fits => absurd fits.1 (by rw [natAbs_signedRounded]; omega)
  unfold signedRounded rounded unit at parts
  cases places <;> rw [fit?, parts]

/-- What is found has the most places that fit. -/
theorem mostPlaces_of_fit? {d : Decimal} (le : places ≤ maxScale)
    (found : fit? negative magnitude maxScale places = some d) :
    d.coefficient = signedRounded negative magnitude d.scale ∧
      MostPlaces magnitude places d.scale := by
  induction places with
  | zero =>
      by_cases fits : rounded magnitude 0 < 2 ^ 96
      · rw [fit?_of_fits fits le] at found
        cases found
        exact ⟨rfl, Nat.le_refl 0, fits, .inl rfl⟩
      · rw [fit?_of_large (Nat.not_lt.mp fits)] at found
        cases found
  | succ places ih =>
      by_cases fits : rounded magnitude (places + 1) < 2 ^ 96
      · rw [fit?_of_fits fits le] at found
        cases found
        exact ⟨rfl, Nat.le_refl _, fits, .inl rfl⟩
      · have large := Nat.not_lt.mp fits
        rw [fit?_of_large large] at found
        obtain ⟨coefficient, most⟩ := ih (Nat.le_of_succ_le le) found
        refine ⟨coefficient, Nat.le_succ_of_le most.le, most.fits, .inr ?_⟩
        rcases most.full with all | full
        · rw [all]
          exact large
        · exact full

/-- Nothing is found if and only if the magnitude does not fit without places. -/
theorem fit?_eq_none_iff (le : places ≤ maxScale) :
    fit? negative magnitude maxScale places = none ↔ 2 ^ 96 ≤ rounded magnitude 0 := by
  induction places with
  | zero =>
      by_cases fits : rounded magnitude 0 < 2 ^ 96
      · rw [fit?_of_fits fits le]
        exact iff_of_false nofun (Nat.not_le.mpr fits)
      · have large := Nat.not_lt.mp fits
        rw [fit?_of_large large]
        exact iff_of_true rfl large
  | succ places ih =>
      by_cases fits : rounded magnitude (places + 1) < 2 ^ 96
      · rw [fit?_of_fits fits le]
        exact iff_of_false nofun fun large =>
          absurd (le_rounded_of_le (Nat.zero_le (places + 1)) large) (Nat.not_le.mpr fits)
      · rw [fit?_of_large (Nat.not_lt.mp fits)]
        exact ih (Nat.le_of_succ_le le)

/-- Only the value counts, not the places it is given with. -/
theorem fit?_rescale {scale : Nat} (le : places ≤ scale) (scale_le : scale ≤ maxScale) :
    fit? negative (magnitude * 10 ^ (maxScale - scale)) maxScale places =
      fit? negative magnitude scale places := by
  have same : ∀ k ≤ scale, divHalfEven (magnitude * 10 ^ (maxScale - scale)) (10 ^ (maxScale - k)) =
      divHalfEven magnitude (10 ^ (scale - k)) := fun k below => by
    have split : maxScale - k = scale - k + (maxScale - scale) := by omega
    rw [split, Nat.pow_add, divHalfEven_mul_right _ _ (Nat.pow_pos (by decide))]
  induction places with
  | zero => rw [fit?, fit?, same 0 le]
  | succ places ih => rw [fit?, fit?, same _ le, ih (Nat.le_of_succ_le le)]

end Fit

/-! ## Sums -/

variable {e a b u v : Decimal}

/-- The sum of two coefficients that are brought to the greater number of places. -/
def scaledSum (a b : Decimal) : Int :=
  a.coefficient * 10 ^ (max a.scale b.scale - a.scale) +
    b.coefficient * 10 ^ (max a.scale b.scale - b.scale)

theorem max_scale_le (a b : Decimal) : max a.scale b.scale ≤ maxScale :=
  Nat.max_le.mpr ⟨a.scale_le, b.scale_le⟩

theorem units_add_units (a b : Decimal) :
    a.units + b.units = a.scaledSum b * 10 ^ (maxScale - max a.scale b.scale) := by
  have widen : ∀ d : Decimal, d.scale ≤ max a.scale b.scale → d.units =
      d.coefficient * 10 ^ (max a.scale b.scale - d.scale) *
        10 ^ (maxScale - max a.scale b.scale) := fun d le => by
    have places : max a.scale b.scale - d.scale + (maxScale - max a.scale b.scale) =
        maxScale - d.scale := by
      have := max_scale_le a b
      omega
    rw [Int.mul_assoc, ← Int.pow_add, places, units]
  rw [widen a (Nat.le_max_left ..), widen b (Nat.le_max_right ..), ← Int.add_mul, scaledSum]

theorem natAbs_units_add_units (a b : Decimal) :
    (a.units + b.units).natAbs = (a.scaledSum b).natAbs * unit (max a.scale b.scale) := by
  rw [units_add_units, Int.natAbs_mul, Int.natAbs_pow]
  rfl

/-- The exact sum, tried from the places of its terms on. -/
theorem add?_eq (a b : Decimal) :
    a.add? b = fit? (a.units + b.units < 0) (a.units + b.units).natAbs maxScale
      (max a.scale b.scale) := by
  have power : (0 : Int) < 10 ^ (maxScale - max a.scale b.scale) := Int.pow_pos (by decide)
  have negative : a.units + b.units < 0 ↔ a.scaledSum b < 0 := by
    rw [units_add_units]
    refine ⟨fun below => Int.not_le.mp fun nonnegative => ?_,
      fun below => Int.mul_neg_of_neg_of_pos below power⟩
    exact absurd below (Int.not_lt.mpr (Int.mul_nonneg nonnegative (Int.le_of_lt power)))
  rw [natAbs_units_add_units, unit, fit?_rescale (Nat.le_refl _) (max_scale_le a b)]
  simp only [negative]
  rfl

/-- A sum that exists is the exact one, rounded to the most places that fit. -/
theorem mostPlaces_of_add? (sum : a.add? b = some u) :
    u.units = (if a.units + b.units < 0
        then -((rounded (a.units + b.units).natAbs u.scale * unit u.scale : Nat) : Int)
        else (rounded (a.units + b.units).natAbs u.scale * unit u.scale : Nat)) ∧
      MostPlaces (a.units + b.units).natAbs (max a.scale b.scale) u.scale := by
  rw [add?_eq] at sum
  obtain ⟨coefficient, most⟩ := mostPlaces_of_fit? (max_scale_le a b) sum
  refine ⟨?_, most⟩
  rw [units, coefficient, signedRounded, unit, Int.natCast_mul, Int.natCast_pow]
  by_cases negative : a.units + b.units < 0
  · simp only [negative, decide_true, if_true, Int.neg_mul]
    rfl
  · simp only [negative, decide_false, if_false, Bool.false_eq_true]
    rfl

theorem rounded_natAbs_units_lt (d : Decimal) : rounded d.units.natAbs 0 < 2 ^ 96 := by
  have widened : d.units.natAbs ≤ d.coefficient.natAbs * unit 0 := by
    rw [natAbs_units]
    exact Nat.mul_le_mul_left _ (unit_le_unit (Nat.zero_le d.scale))
  refine Nat.lt_of_le_of_lt (rounded_le_rounded 0 widened) ?_
  rw [rounded, divHalfEven_mul_self _ (unit_pos 0)]
  exact d.coefficient_lt

/-- The greater of two sums is not rounded to the lesser value. -/
theorem add?_le_add? (le : a.units ≤ b.units) (left : e.add? a = some u)
    (right : e.add? b = some v) : u.units ≤ v.units := by
  obtain ⟨worth, most⟩ := mostPlaces_of_add? left
  obtain ⟨worth', most'⟩ := mostPlaces_of_add? right
  have exact := Nat.dvd_mul_left (unit (max e.scale a.scale)) (e.scaledSum a).natAbs
  have exact' := Nat.dvd_mul_left (unit (max e.scale b.scale)) (e.scaledSum b).natAbs
  rw [← natAbs_units_add_units] at exact exact'
  rw [worth, worth']
  split
  next negative =>
    split
    next negative' =>
      have magnitudes := most'.rounded_mul_unit_le most (by omega) exact' exact (max_scale_le e b)
      omega
    next => omega
  next positive =>
    have magnitudes := most.rounded_mul_unit_le most' (by omega) exact exact' (max_scale_le e a)
    split
    next => omega
    next => omega

/-- A sum exists if it does with a second term that is farther from zero. -/
theorem exists_add?_of_closer
    (closer : 0 ≤ a.units ∧ a.units ≤ b.units ∨ b.units ≤ a.units ∧ a.units ≤ 0)
    (sum : e.add? b = some v) : ∃ u, e.add? a = some u := by
  refine Option.ne_none_iff_exists'.mp fun unfit => ?_
  rw [add?_eq, fit?_eq_none_iff (max_scale_le e a)] at unfit
  -- The first term fits, so the second one has led away from zero, and does so the farther it is.
  have fits := rounded_natAbs_units_lt e
  have away : e.units.natAbs < (e.units + a.units).natAbs := by
    refine Nat.lt_of_not_le fun le => ?_
    have := rounded_le_rounded 0 le
    omega
  have none : e.add? b = none := by
    rw [add?_eq, fit?_eq_none_iff (max_scale_le e b)]
    exact Nat.le_trans unfit (rounded_le_rounded 0 (by omega))
  cases sum.symm.trans none

end Decimal
end QueryRegression
