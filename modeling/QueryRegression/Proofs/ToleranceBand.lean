import Mathlib.Algebra.Order.Field.Basic
import Mathlib.Algebra.Order.Field.Rat
import Mathlib.Algebra.Order.Ring.Cast
import Mathlib.Tactic.FieldSimp
import Mathlib.Tactic.Positivity
import QueryRegression.Proofs.LooserTolerance

/-!
# The band of a tolerance

Which numbers match within a tolerance, said without the steps in which that is decided.

* `NumericMatch.within_decimal_iff`: decimals match if their exact distance is allowed, or if the
  actual one is a limit of the band in the arithmetic of decimals, which rounds it.
* `CellPosition.compareCell_of_oneNaN`: what is not a number matches every number, unless equality
  is asked for.
-/

namespace QueryRegression

namespace Decimal

/-! ## Decimals as rational numbers -/

/-- The exact value. -/
def toRat (d : Decimal) : ℚ := d.coefficient / 10 ^ d.scale

theorem toRat_eq_units_div (d : Decimal) : d.toRat = d.units / 10 ^ maxScale := by
  have within : d.scale ≤ maxScale := d.scale_le
  have places : (10 : ℚ) ^ maxScale = 10 ^ d.scale * 10 ^ (maxScale - d.scale) := by
    rw [← pow_add, Nat.add_sub_of_le within]
  rw [toRat, units, places]
  push_cast
  field_simp

theorem toRat_eq_toRat_iff {a b : Decimal} : a.toRat = b.toRat ↔ a.units = b.units := by
  rw [toRat_eq_units_div, toRat_eq_units_div, div_left_inj' (by positivity)]
  exact Int.cast_inj

theorem toRat_neg (d : Decimal) : d.neg.toRat = -d.toRat := by
  rw [toRat, toRat, neg, Int.cast_neg, neg_div]

theorem toRat_zero : zero.toRat = 0 := by
  rw [toRat, zero, Int.cast_zero, zero_div]

theorem isNegative_iff {d : Decimal} : d.isNegative = true ↔ d.toRat < 0 := by
  have positive : (0 : ℚ) < 10 ^ d.scale := by positivity
  rw [isNegative, decide_eq_true_iff, toRat, div_lt_iff₀ positive, zero_mul]
  exact Int.cast_lt_zero.symm

theorem toRat_nonneg_iff {d : Decimal} : 0 ≤ d.toRat ↔ 0 ≤ d.units := by
  rw [toRat_eq_units_div, le_div_iff₀ (by positivity), zero_mul]
  exact Int.cast_nonneg_iff

theorem toRat_eq_add_iff {a b c : Decimal} :
    a.toRat = b.toRat + c.toRat ↔ a.units = b.units + c.units := by
  rw [toRat_eq_units_div, toRat_eq_units_div, toRat_eq_units_div, ← add_div,
    div_left_inj' (by positivity)]
  norm_cast

/-- Distances are counted in units. -/
theorem abs_toRat_sub_le_iff {a b d : Decimal} : |a.toRat - b.toRat| ≤ d.toRat ↔
    a.units - d.units ≤ b.units ∧ b.units ≤ a.units + d.units := by
  have positive : (0 : ℚ) < 10 ^ maxScale := by positivity
  rw [toRat_eq_units_div, toRat_eq_units_div, toRat_eq_units_div, ← sub_div, abs_div,
    abs_of_pos positive, div_le_div_iff_of_pos_right positive, abs_le]
  norm_cast
  omega

/-! ## Sums beside other decimals -/

variable {e d a u : Decimal}

/-- A decimal has its own places and no more, and nothing is lost with these. -/
theorem mostPlaces_units (a : Decimal) : MostPlaces a.units.natAbs a.scale a.scale := by
  refine ⟨Nat.le_refl _, ?_, .inl rfl⟩
  rw [natAbs_units, rounded, Number.divHalfEven_mul_self _ (unit_pos _)]
  exact a.coefficient_lt

theorem unit_dvd_natAbs_units (a : Decimal) : unit a.scale ∣ a.units.natAbs :=
  natAbs_units a ▸ Nat.dvd_mul_left ..

theorem unit_dvd_natAbs_sum (a b : Decimal) :
    unit (max a.scale b.scale) ∣ (a.units + b.units).natAbs :=
  natAbs_units_add_units a b ▸ Nat.dvd_mul_left ..

/-- A sum is rounded to a value of its sign, and of two magnitudes the rounded one stays on the same
side of that of any decimal. -/
theorem natAbs_of_add? (sum : e.add? d = some u) (a : Decimal) :
    (e.units + d.units < 0 → u.units ≤ 0) ∧ (0 ≤ e.units + d.units → 0 ≤ u.units) ∧
      (a.units.natAbs ≤ (e.units + d.units).natAbs → a.units.natAbs ≤ u.units.natAbs) ∧
      ((e.units + d.units).natAbs ≤ a.units.natAbs → u.units.natAbs ≤ a.units.natAbs) := by
  obtain ⟨worth, most⟩ := mostPlaces_of_add? sum
  have own := rounded_mul_unit (unit_dvd_natAbs_units a)
  have magnitude : u.units.natAbs =
      rounded (e.units + d.units).natAbs u.scale * unit u.scale := by
    rw [worth]
    split <;> omega
  refine ⟨fun negative => ?_, fun nonnegative => ?_, fun le => ?_, fun le => ?_⟩
  · rw [worth, if_pos negative]
    omega
  · rw [worth, if_neg (Int.not_lt.mpr nonnegative)]
    omega
  · have kept := (mostPlaces_units a).rounded_mul_unit_le most le (unit_dvd_natAbs_units a)
      (unit_dvd_natAbs_sum e d) a.scale_le
    omega
  · have kept := most.rounded_mul_unit_le (mostPlaces_units a) le (unit_dvd_natAbs_sum e d)
      (unit_dvd_natAbs_units a) (max_scale_le e d)
    omega

/-- A sum is rounded to no less than any decimal that is at most the exact one. -/
theorem le_of_add? (sum : e.add? d = some u) (le : a.units ≤ e.units + d.units) :
    a.units ≤ u.units := by
  obtain ⟨negative, nonnegative, nearer, farther⟩ := natAbs_of_add? sum a
  omega

/-- A sum is rounded to no more than any decimal that is at least the exact one. -/
theorem add?_le (sum : e.add? d = some u) (le : e.units + d.units ≤ a.units) :
    u.units ≤ a.units := by
  obtain ⟨negative, nonnegative, nearer, farther⟩ := natAbs_of_add? sum a
  omega

/-- A sum whose value some decimal has is exact. -/
theorem add?_exact (sum : e.add? d = some u) (exact : a.toRat = e.toRat + d.toRat) :
    u.toRat = e.toRat + d.toRat := by
  have units := toRat_eq_add_iff.mp exact
  have above := add?_le sum (Int.le_of_eq units.symm)
  have below := le_of_add? sum (Int.le_of_eq units)
  rw [← exact, toRat_eq_toRat_iff]
  exact Int.le_antisymm above below

/-- A sum that does not exist is farther from zero than any decimal. -/
theorem natAbs_lt_of_add?_eq_none (unfit : e.add? d = none) (a : Decimal) :
    a.units.natAbs < (e.units + d.units).natAbs := by
  rw [add?_eq, fit?_eq_none_iff (max_scale_le e d)] at unfit
  refine Nat.lt_of_not_le fun le => ?_
  have fits := rounded_natAbs_units_lt a
  have := rounded_le_rounded 0 le
  omega

/-- What the upper limit of a band says of a decimal: that it is at most the exact limit, or the
rounded one. -/
theorem le_add?_iff (nonnegative : 0 ≤ d.units) :
    (∀ u, e.add? d = some u → a.units ≤ u.units) ↔
      a.units ≤ e.units + d.units ∨ ∃ u, e.add? d = some u ∧ u.units = a.units := by
  cases sum : e.add? d with
  | none =>
      have beyond := natAbs_lt_of_add?_eq_none sum e
      have beyond' := natAbs_lt_of_add?_eq_none sum a
      exact iff_of_true nofun (.inl (by omega))
  | some u =>
      have above : e.units + d.units ≤ a.units → u.units ≤ a.units := add?_le sum
      have below : a.units ≤ e.units + d.units → a.units ≤ u.units := le_of_add? sum
      simp only [Option.some.injEq, forall_eq', exists_eq_left']
      omega

/-- So does the lower limit. -/
theorem add?_le_iff (nonpositive : d.units ≤ 0) :
    (∀ l, e.add? d = some l → l.units ≤ a.units) ↔
      e.units + d.units ≤ a.units ∨ ∃ l, e.add? d = some l ∧ l.units = a.units := by
  cases sum : e.add? d with
  | none =>
      have beyond := natAbs_lt_of_add?_eq_none sum e
      have beyond' := natAbs_lt_of_add?_eq_none sum a
      exact iff_of_true nofun (.inl (by omega))
  | some l =>
      have above : e.units + d.units ≤ a.units → l.units ≤ a.units := add?_le sum
      have below : a.units ≤ e.units + d.units → a.units ≤ l.units := le_of_add? sum
      simp only [Option.some.injEq, forall_eq', exists_eq_left']
      omega

end Decimal

namespace NumericMatch

/-! ## Decimals -/

variable {d expected actual : Decimal}

theorem eq_iff_units_eq : expected.eq actual = true ↔ expected.units = actual.units := by
  rw [Decimal.eq, beq_iff_eq, Decimal.compare_eq_compare, Std.compare_eq_iff_eq]
  rfl

/-- Decimals match if they are equal or, where they need not be, neither limit that exists is
exceeded. -/
theorem within_iff_limits : ofValues d (.decimal expected) (.decimal actual) = .within ↔
    expected.units = actual.units ∨ d.units ≠ 0 ∧
      (∀ upper, expected.add? d = some upper → actual.units ≤ upper.units) ∧
      ∀ lower, expected.add? d.neg = some lower → lower.units ≤ actual.units := by
  have decided : ofValues d (.decimal expected) (.decimal actual) = .within ↔
      ¬decimalOutside d expected actual = true := by
    rw [ofValues, ofOutside]
    cases decimalOutside d expected actual <;> simp
  rw [decided, decimalOutside_iff, ← Bool.not_eq_true, eq_iff_units_eq, not_and,
    ← or_iff_not_imp_left, not_or, not_or]
  simp only [not_exists, not_and, Int.not_lt, Ne]

/-- Decimals match within a divergence if and only if their exact distance is at most this, or the
actual one is a limit of the band as it is rounded. -/
theorem within_decimal_iff (nonnegative : 0 ≤ d.toRat) :
    ofValues d (.decimal expected) (.decimal actual) = .within ↔
      |expected.toRat - actual.toRat| ≤ d.toRat ∨
        (∃ upper, expected.add? d = some upper ∧ upper.toRat = actual.toRat) ∨
        ∃ lower, expected.sub? d = some lower ∧ lower.toRat = actual.toRat := by
  rw [Decimal.toRat_nonneg_iff] at nonnegative
  have opposite := Decimal.units_neg d
  simp only [Decimal.sub?, Decimal.abs_toRat_sub_le_iff, Decimal.toRat_eq_toRat_iff]
  rw [within_iff_limits, Decimal.le_add?_iff nonnegative, Decimal.add?_le_iff (by omega), opposite]
  constructor
  · rintro (equal | ⟨-, inside | upper, inside' | lower⟩)
    · exact .inl (by omega)
    · exact .inl (by omega)
    · exact .inr (.inr lower)
    · exact .inr (.inl upper)
    · exact .inr (.inl upper)
  · rintro (⟨above, below⟩ | ⟨upper, sum, equal⟩ | ⟨lower, sum, equal⟩)
    · by_cases zero : d.units = 0
      · exact .inl (by omega)
      · exact .inr ⟨zero, .inl below, .inl (by omega)⟩
    · -- A limit is never on the wrong side of the expected decimal.
      have side : expected.units ≤ upper.units := Decimal.le_of_add? sum (by omega)
      by_cases zero : d.units = 0
      · have same : upper.units ≤ expected.units := Decimal.add?_le sum (by omega)
        exact .inl (by omega)
      · exact .inr ⟨zero, .inr ⟨upper, sum, equal⟩, .inl (by omega)⟩
    · have side : lower.units ≤ expected.units := Decimal.add?_le sum (by omega)
      by_cases zero : d.units = 0
      · have same : expected.units ≤ lower.units := Decimal.le_of_add? sum (by omega)
        exact .inl (by omega)
      · exact .inr ⟨zero, .inl (by omega), .inr ⟨lower, sum, equal⟩⟩

/-- Where the limits of the band that exist are decimals, only the exact distance counts. -/
theorem within_decimal_iff_of_exact (nonnegative : 0 ≤ d.toRat)
    (upperFits : expected.add? d ≠ none → ∃ u : Decimal, u.toRat = expected.toRat + d.toRat)
    (lowerFits : expected.sub? d ≠ none → ∃ l : Decimal, l.toRat = expected.toRat - d.toRat) :
    ofValues d (.decimal expected) (.decimal actual) = .within ↔
      |expected.toRat - actual.toRat| ≤ d.toRat := by
  rw [within_decimal_iff nonnegative]
  refine or_iff_left_of_imp ?_
  rintro (⟨upper, sum, equal⟩ | ⟨lower, difference, equal⟩)
  · obtain ⟨u, fits⟩ := upperFits (by simp [sum])
    rw [← equal, Decimal.add?_exact sum fits, sub_add_cancel_left, abs_neg,
      abs_of_nonneg nonnegative]
  · obtain ⟨l, fits⟩ := lowerFits (by simp [difference])
    rw [sub_eq_add_neg, ← Decimal.toRat_neg] at fits
    rw [← equal, Decimal.add?_exact difference fits, sub_add_cancel_left, Decimal.toRat_neg,
      neg_neg, abs_of_nonneg nonnegative]

/-- The upper limit of the band has one place more than fits. It is rounded to the actual decimal,
which matches therefore, although it is farther from the expected one than the divergence. -/
theorem within_beyond_divergence :
    let d : Decimal := ⟨4, 28, by decide, by decide⟩
    let expected : Decimal := ⟨79228162514264337593543950335, 28, by decide, by decide⟩
    let actual : Decimal := ⟨7922816251426433759354395034, 27, by decide, by decide⟩
    0 ≤ d.toRat ∧ ofValues d (.decimal expected) (.decimal actual) = .within ∧
      ¬|expected.toRat - actual.toRat| ≤ d.toRat := by
  intro d expected actual
  rw [Decimal.toRat_nonneg_iff, Decimal.abs_toRat_sub_le_iff]
  decide +kernel

/-- The lower limit below zero is rounded in the same way. -/
theorem within_decimal_iff_of_lower_limit :
    let d : Decimal := ⟨4, 28, by decide, by decide⟩
    let expected : Decimal := ⟨-79228162514264337593543950335, 28, by decide, by decide⟩
    let actual : Decimal := ⟨-7922816251426433759354395034, 27, by decide, by decide⟩
    0 ≤ d.toRat ∧ expected.sub? d = some actual ∧
      ofValues d (.decimal expected) (.decimal actual) = .within := by
  intro d expected actual
  have nonnegative : 0 ≤ d.toRat := Decimal.toRat_nonneg_iff.mpr (by decide)
  have rounded : expected.sub? d = some actual := by decide +kernel
  exact ⟨nonnegative, rounded,
    (within_decimal_iff nonnegative).mpr (.inr (.inr ⟨actual, rounded, rfl⟩))⟩

end NumericMatch

/-! ## What is not a number -/

namespace Binary

variable {f : BinaryFormat} {x y : Binary f}

theorem eq_of_isNaN_ne (oneNaN : x.isNaN ≠ y.isNaN) : x.eq y = false := by
  unfold eq
  cases left : x.isNaN <;> cases right : y.isNaN <;> simp_all

/-- What is not a number is not less than anything, nor is anything less than it. -/
theorem lt_of_isNaN (notNumber : x.isNaN = true ∨ y.isNaN = true) : x.lt y = false := by
  rcases notNumber with left | right
  · simp [lt, left]
  · simp [lt, right]

theorem add_of_isNaN (notNumber : x.isNaN = true) (y : Binary f) : x.add y = nan := by
  simp [add, notNumber]

end Binary

/-- Nothing is beyond a limit of the band if either is not a number. So one that is not a number is
outside only where equality is asked for. -/
theorem NumericMatch.binaryOutside_of_isNaN_ne {f : BinaryFormat}
    {tolerance expected actual : Binary f} (nan : (Binary.nan : Binary f).isNaN = true)
    (oneNaN : expected.isNaN ≠ actual.isNaN) (exact : Bool) :
    binaryOutside tolerance exact expected actual = exact := by
  have unlimited : (expected.add tolerance).lt actual = false ∧
      actual.lt (expected.sub tolerance) = false := by
    cases left : expected.isNaN with
    | true =>
        rw [Binary.sub, Binary.add_of_isNaN left, Binary.add_of_isNaN left]
        exact ⟨Binary.lt_of_isNaN (.inl nan), Binary.lt_of_isNaN (.inr nan)⟩
    | false =>
        have right : actual.isNaN = true := by simpa [left] using oneNaN
        exact ⟨Binary.lt_of_isNaN (.inr right), Binary.lt_of_isNaN (.inl right)⟩
  rw [binaryOutside, Binary.eq_of_isNaN_ne oneNaN, unlimited.1, unlimited.2]
  cases exact <;> rfl

/-- Two floating-point values of one format, one of which is not a number while the other one is. -/
inductive Value.OneNaN : Value → Value → Prop
  | double {x y : Binary64} : x.isNaN ≠ y.isNaN → OneNaN (.double x) (.double y)
  | float {x y : Binary32} : x.isNaN ≠ y.isNaN → OneNaN (.float x) (.float y)

theorem Value.OneNaN.ofValues {expected actual : Value} (h : expected.OneNaN actual)
    (divergence : Decimal) : NumericMatch.ofValues divergence expected actual =
      .ofOutside divergence.isZero := by
  cases h with
  | double oneNaN =>
      rw [NumericMatch.ofValues, NumericMatch.binaryOutside_of_isNaN_ne (by decide) oneNaN]
  | float oneNaN =>
      rw [NumericMatch.ofValues, NumericMatch.binaryOutside_of_isNaN_ne (by decide) oneNaN]

/-- What is not a number differs from every number if equality is asked for. Within any other
divergence it matches every number, on whichever side it stands. -/
theorem CellPosition.compareCell_of_oneNaN (policy : Policy) {expected actual : Value}
    (h : expected.OneNaN actual) :
    NumericMatch.ofValues policy.allowedDivergence expected actual =
        (if policy.isExact then .outside else .within) ∧
      ∀ p : CellPosition, p.compareCell policy actual expected = .ok
        (if policy.isExact then
          some (p.valueFailure expected actual (divergenceNote policy.allowedDivergence))
        else none) := by
  have numbers := h.ofValues policy.allowedDivergence
  refine ⟨numbers, fun p => ?_⟩
  have compared : p.compareCell policy actual expected =
      .ok (p.compareNormal policy actual expected) := by cases h <;> rfl
  rw [compared, compareNormal, numbers, NumericMatch.ofOutside, Policy.isExact]
  cases policy.allowedDivergence.isZero <;> rfl

/-- Within one half, one matches what is not a number. -/
theorem CellPosition.compareCell_of_oneNaN_one :
    let policy := Policy.exact.withDivergence ⟨5, 1, by decide, by decide⟩
    let expected : Value := .double .nan
    let actual : Value := .double (.ofNat 1)
    expected.OneNaN actual ∧
      NumericMatch.ofValues policy.allowedDivergence expected actual = .within ∧
      ∀ p : CellPosition, p.compareCell policy actual expected = .ok none := by
  intro policy expected actual
  have oneNaN : expected.OneNaN actual := .double (by decide +kernel)
  have inexact : policy.isExact = false := by decide
  obtain ⟨numbers, cells⟩ := compareCell_of_oneNaN policy oneNaN
  simp only [inexact, Bool.false_eq_true, if_false] at numbers cells
  exact ⟨oneNaN, numbers, cells⟩

end QueryRegression
