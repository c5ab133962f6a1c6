import Mathlib.Algebra.Order.Field.Power
import Mathlib.Data.List.TakeWhile
import Mathlib.Data.Option.Basic
import QueryRegression.Proofs.DecimalTexts

/-!
# Decimal numerals

A numeral is digits with a sign, a point and an exponent of ten. It denotes a rational number, which
need not be a decimal.

* `Numeral.exists_writes`: a decimal is read from the text of a numeral only, and it is less than
  one unit of its last place away from what the numeral denotes.
* `Numeral.exists_ofChars?_of_fits`: a numeral that fits is read, and the decimal is what it
  denotes.
-/

namespace QueryRegression

namespace Decimal

open Number

/-! ## Approximation -/

/-- A decimal is a number, or it is less than one unit of its last place away, and then a decimal of
one place more would not fit. -/
def Approximates (d : Decimal) (x : ℚ) : Prop :=
  d.toRat = x ∨
    |d.toRat - x| < 1 / 10 ^ d.scale ∧
      (d.scale = maxScale ∨ 2 ^ 96 ≤ 10 * d.coefficient.natAbs)

theorem Approximates.abs_sub_lt {d : Decimal} {x : ℚ} (approximates : d.Approximates x) :
    |d.toRat - x| < 1 / 10 ^ d.scale := by
  rcases approximates with exact | ⟨near, -⟩
  · rw [exact, sub_self, abs_zero]
    positivity
  · exact near

theorem natAbs_withSign (negative : Bool) (n : Nat) : (withSign negative n).natAbs = n := by
  cases negative
  · rfl
  · exact Int.natAbs_neg n

theorem withSign_natAbs (k : Int) : withSign (k < 0) k.natAbs = k := by
  simp only [withSign, decide_eq_true_eq]
  split <;> omega

/-- Signs of a difference do not count. -/
theorem abs_withSign_div_sub (negative : Bool) (m n : Nat) (a b : ℚ) :
    |(withSign negative m : ℚ) / a - withSign negative n / b| = |m / a - n / b| := by
  cases negative
  · rfl
  · simp only [withSign, if_true, Int.cast_neg, Int.cast_natCast, neg_div]
    rw [neg_sub_neg, abs_sub_comm]

theorem approximates_of_standsFor {d : Decimal} {negative : Bool} {magnitude digits places : Nat}
    (coefficient : d.coefficient = withSign negative magnitude)
    (stands : StandsFor magnitude d.scale (digits / 10 ^ places)) :
    d.Approximates (withSign negative digits / 10 ^ places) := by
  have distance : |d.toRat - withSign negative digits / 10 ^ places| =
      |(magnitude : ℚ) / 10 ^ d.scale - digits / 10 ^ places| := by
    rw [toRat, coefficient, abs_withSign_div_sub]
  rcases stands with exact | ⟨near, most⟩
  · rw [exact, sub_self, abs_zero, abs_eq_zero] at distance
    exact .inl (sub_eq_zero.mp distance)
  · rw [← natAbs_withSign negative magnitude, ← coefficient] at most
    exact .inr ⟨distance.trans_lt near, most⟩

/-! ## Shifts of the point -/

section Shifts

variable {d r : Decimal} {x : ℚ} {n places : Nat}

theorem natAbs_mul_ten_pow (k : Int) (n : Nat) : (k * 10 ^ n).natAbs = k.natAbs * 10 ^ n := by
  rw [Int.natAbs_mul, Int.natAbs_pow]
  rfl

theorem abs_divHalfUp_sub_le (k : Nat) {b : Nat} (positive : 0 < b) :
    |(divHalfUp k b : ℚ) - k / b| ≤ 1 / 2 := by
  have lower : 2 * b * divHalfUp k b ≤ 2 * k + b := Nat.mul_div_le (2 * k + b) (2 * b)
  have upper : 2 * k + b < 2 * b * (divHalfUp k b + 1) :=
    Nat.lt_mul_div_succ (2 * k + b) (by omega)
  have positive : (0 : ℚ) < b := Nat.cast_pos.mpr positive
  have lower : 2 * b * divHalfUp k b ≤ (2 * k + b : ℚ) := by exact_mod_cast lower
  have upper : (2 * k + b : ℚ) < 2 * b * (divHalfUp k b + 1) := by exact_mod_cast upper
  rw [abs_sub_le_iff, sub_le_iff_le_add, sub_le_iff_le_add, div_le_iff₀ positive]
  constructor
  · rw [← sub_le_iff_le_add', le_div_iff₀ positive]
    linarith
  · linarith

/-- Rounding to fewer places goes to the nearest decimal. -/
theorem abs_roundTo_sub_le (rounded : d.roundTo places = some r) :
    r = d ∨ r.scale < d.scale ∧ |r.toRat - d.toRat| ≤ 1 / 2 / 10 ^ r.scale := by
  rw [roundTo] at rounded
  split at rounded
  next => exact .inl (Option.some.inj rounded).symm
  next beyond =>
    have beyond := Nat.lt_of_not_le beyond
    obtain ⟨coefficient, rfl⟩ := ofParts?_eq_some_iff.mp rounded
    have negative : r.coefficient = withSign (d.coefficient < 0)
        (divHalfUp d.coefficient.natAbs (10 ^ (d.scale - r.scale))) := by
      simp only [coefficient, withSign, decide_eq_true_eq]
    have split : (10 : ℚ) ^ d.scale = (10 ^ (d.scale - r.scale) : Nat) * 10 ^ r.scale := by
      push_cast
      rw [← pow_add, Nat.sub_add_cancel beyond.le]
    refine .inr ⟨beyond, ?_⟩
    have distance : |r.toRat - d.toRat| =
        |(divHalfUp d.coefficient.natAbs (10 ^ (d.scale - r.scale)) : ℚ) -
          d.coefficient.natAbs / (10 ^ (d.scale - r.scale) : Nat)| / 10 ^ r.scale := by
      conv_lhs => rw [toRat, toRat, ← withSign_natAbs d.coefficient, negative, abs_withSign_div_sub]
      rw [split, ← div_div, ← sub_div, abs_div,
        abs_of_pos (by positivity : (0 : ℚ) < 10 ^ r.scale)]
    rw [distance]
    exact div_le_div_of_nonneg_right (abs_divHalfUp_sub_le _ (by positivity)) (by positivity)

/-- One unit of a later place is at most half a unit of an earlier one. -/
theorem one_div_pow_le_half {m n : Nat} (fewer : m < n) :
    (1 : ℚ) / 10 ^ n ≤ 1 / 2 / 10 ^ m := by
  rw [div_div, one_div_le_one_div (by positivity) (by positivity)]
  calc (2 : ℚ) * 10 ^ m ≤ 10 ^ (m + 1) := by
        rw [pow_succ', mul_le_mul_iff_left₀ (by positivity)]
        norm_num
    _ ≤ 10 ^ n := pow_le_pow_right₀ (by norm_num) fewer

/-- A number that is rounded twice is less than one unit of the last place away. -/
theorem abs_roundTo_sub_lt (near : |d.toRat - x| < 1 / 10 ^ d.scale)
    (rounded : d.roundTo places = some r) : |r.toRat - x| < 1 / 10 ^ r.scale := by
  rcases abs_roundTo_sub_le rounded with rfl | ⟨fewer, rounding⟩
  · exact near
  · calc |r.toRat - x| ≤ |r.toRat - d.toRat| + |d.toRat - x| := abs_sub_le _ _ _
      _ < 1 / 2 / 10 ^ r.scale + 1 / 2 / 10 ^ r.scale :=
          add_lt_add_of_le_of_lt rounding (near.trans_le (one_div_pow_le_half fewer))
      _ = 1 / 10 ^ r.scale := by rw [← add_div, add_halves]

/-- A shift to the right goes to a decimal less than one unit of the last place away. -/
theorem abs_shiftDown_sub_lt (near : |d.toRat - x| < 1 / 10 ^ d.scale)
    (shifted : d.shiftDown n = some r) : |r.toRat - x / 10 ^ n| < 1 / 10 ^ r.scale := by
  rw [shiftDown] at shifted
  split at shifted
  next => cases shifted
  next within =>
    obtain ⟨rounded, round, shifted⟩ := Option.bind_eq_some_iff.mp shifted
    obtain ⟨coefficient, scale⟩ := ofParts?_eq_some_iff.mp shifted
    have value : r.toRat = rounded.toRat / 10 ^ n := by
      rw [toRat, toRat, coefficient, scale, pow_add, div_div]
    have positive : (0 : ℚ) < 10 ^ n := by positivity
    rw [value, scale, ← sub_div, abs_div, abs_of_pos positive, pow_add, ← div_div]
    exact div_lt_div_of_pos_right (abs_roundTo_sub_lt near round) positive

/-- A shift to the right loses nothing where there are places enough. -/
theorem shiftDown_exact (within : d.scale + n ≤ maxScale) :
    ∃ r, d.shiftDown n = some r ∧ r.toRat = d.toRat / 10 ^ n := by
  refine ⟨⟨d.coefficient, d.scale + n, d.coefficient_lt, within⟩, ?_, ?_⟩
  · rw [shiftDown, if_neg (by omega), roundTo, if_pos (by omega)]
    exact ofParts?_eq_some_iff.mpr ⟨rfl, rfl⟩
  · rw [toRat, toRat, div_div, pow_add]

/-- A shift to the left takes places away, and appends zeros when there are none left. -/
theorem shiftUp_eq_some_iff : d.shiftUp n = some r ↔
    n ≤ d.scale ∧ r.coefficient = d.coefficient ∧ r.scale = d.scale - n ∨
      d.scale < n ∧ n ≤ maxScale ∧ r.coefficient = d.coefficient * 10 ^ (n - d.scale) ∧
        r.scale = 0 := by
  rw [shiftUp]
  by_cases few : n ≤ d.scale
  · rw [if_pos few, ofParts?_eq_some_iff, and_iff_right few]
    exact (or_iff_left fun many => absurd many.1 (Nat.not_lt.mpr few)).symm
  · rw [if_neg few, or_iff_right fun shifted => few shifted.1,
      and_iff_right (Nat.lt_of_not_le few)]
    split
    next beyond => exact iff_of_false nofun fun shifted => absurd shifted.1 (Nat.not_le.mpr beyond)
    next within => rw [ofParts?_eq_some_iff, and_iff_right (Nat.le_of_not_lt within)]

/-- A shift to the left loses nothing. -/
theorem toRat_of_shiftUp (shifted : d.shiftUp n = some r) : r.toRat = d.toRat * 10 ^ n := by
  rcases shiftUp_eq_some_iff.mp shifted with
    ⟨few, coefficient, scale⟩ | ⟨many, -, coefficient, scale⟩
  · rw [toRat, toRat, coefficient, scale, div_mul_eq_mul_div, div_eq_div_iff (by positivity)
      (by positivity), mul_assoc, ← pow_add, Nat.add_sub_cancel' few]
  · rw [toRat, toRat, coefficient, scale, pow_zero, div_one, div_mul_eq_mul_div,
      eq_div_iff (by positivity)]
    push_cast
    rw [mul_assoc, ← pow_add, Nat.sub_add_cancel many.le]

/-- A base to which zeros are appended was not rounded, since a rounded one has no place left for
one more digit. -/
theorem Approximates.exact_of_shiftUp (approximates : d.Approximates x) (many : d.scale < n)
    (within : n ≤ maxScale) (coefficient : r.coefficient = d.coefficient * 10 ^ (n - d.scale)) :
    d.toRat = x := by
  refine approximates.resolve_right fun ⟨_, most⟩ => ?_
  rcases most with full | large
  · omega
  · have fits := r.coefficient_lt
    rw [coefficient, natAbs_mul_ten_pow] at fits
    have power : 10 ^ 1 ≤ 10 ^ (n - d.scale) := Nat.pow_le_pow_right (by decide) (by omega)
    have raised := Nat.mul_le_mul_left d.coefficient.natAbs power
    omega

/-- A shift to the left goes to a decimal less than one unit of the last place away. -/
theorem abs_shiftUp_sub_lt (approximates : d.Approximates x) (shifted : d.shiftUp n = some r) :
    |r.toRat - x * 10 ^ n| < 1 / 10 ^ r.scale := by
  have positive : (0 : ℚ) < 10 ^ n := by positivity
  rw [toRat_of_shiftUp shifted, ← sub_mul, abs_mul, abs_of_pos positive]
  rcases shiftUp_eq_some_iff.mp shifted with
    ⟨few, -, scale⟩ | ⟨many, within, coefficient, -⟩
  · have places : (10 : ℚ) ^ d.scale = 10 ^ r.scale * 10 ^ n := by
      rw [scale, ← pow_add, Nat.sub_add_cancel few]
    have near := approximates.abs_sub_lt
    rwa [places, ← div_div, lt_div_iff₀ positive] at near
  · rw [approximates.exact_of_shiftUp many within coefficient, sub_self, abs_zero, zero_mul]
    positivity

/-- A shift to the left that fits is made. -/
theorem exists_shiftUp (within : n ≤ maxScale)
    (fits : d.coefficient.natAbs * 10 ^ (n - d.scale) < 2 ^ 96) :
    ∃ r, d.shiftUp n = some r := by
  by_cases few : n ≤ d.scale
  · refine ⟨⟨d.coefficient, d.scale - n, d.coefficient_lt, (Nat.sub_le ..).trans d.scale_le⟩, ?_⟩
    exact shiftUp_eq_some_iff.mpr (.inl ⟨few, rfl, rfl⟩)
  · rw [← natAbs_mul_ten_pow] at fits
    refine ⟨⟨_, 0, fits, Nat.zero_le _⟩, ?_⟩
    exact shiftUp_eq_some_iff.mpr (.inr ⟨Nat.lt_of_not_le few, within, rfl, rfl⟩)

end Shifts

/-! ## Form with an exponent -/

/-- The text of digits with a sign or without one. -/
inductive WritesBase : List Char → Bool → Nat → Nat → Prop
  | intro {sign body : List Char} {negative : Bool} {digits places : Nat} :
    IsSign sign negative → WritesDigits body digits places →
    WritesBase (sign ++ body) negative digits places

/-- The character before an exponent. -/
def IsMark (c : Char) : Prop := c = 'e' ∨ c = 'E'

instance : DecidablePred IsMark := fun _ => inferInstanceAs (Decidable (_ ∨ _))

section Exponents

variable {cs base power : List Char} {mark : Char} {negative : Bool} {digits places : Nat}
  {d : Decimal}

theorem WritesDigits.mem (writes : WritesDigits cs digits places) :
    ∀ c ∈ cs, c.isDigit = true ∨ c = '_' ∨ c = '.' := by
  have only : ∀ {ds : List Char}, onlyDigits ds = true →
      ∀ c ∈ ds, c.isDigit = true ∨ c = '_' ∨ c = '.' := by
    intro ds only c mem
    have allowed := List.all_eq_true.mp only c mem
    rw [Bool.or_eq_true, beq_iff_eq] at allowed
    exact allowed.imp_right .inl
  cases writes with
  | whole all => exact only all
  | pointed allWhole allFraction =>
      intro c mem
      rcases List.mem_append.mp mem with mem | mem
      · exact only allWhole c mem
      · rcases List.mem_cons.mp mem with point | mem
        · exact .inr (.inr point)
        · exact only allFraction c mem

/-- No mark of an exponent is part of the base. -/
theorem WritesBase.unmarked (writes : WritesBase cs negative digits places) :
    ∀ c ∈ cs, ¬IsMark c := by
  obtain ⟨isSign, writes⟩ := writes
  intro c mem
  rcases List.mem_append.mp mem with mem | mem
  · have signs : ¬IsMark '+' ∧ ¬IsMark '-' := by decide
    cases isSign with
    | none => cases mem
    | plus => exact List.mem_singleton.mp mem ▸ signs.1
    | minus => exact List.mem_singleton.mp mem ▸ signs.2
  · rintro (rfl | rfl) <;> rcases writes.mem _ mem with wrong | wrong | wrong <;> cases wrong

/-- What is read without an exponent stands for the number that is written. -/
theorem exists_writesBase (read : plain? cs = some d) :
    ∃ negative digits places, WritesBase cs negative digits places ∧
      d.Approximates (withSign negative digits / 10 ^ places) := by
  obtain ⟨sign, rest, negative, isSign, rfl, bare⟩ := exists_isSign cs
  rw [plain?_sign_append isSign bare] at read
  obtain ⟨digits, places, writes, magnitude, coefficient, stands⟩ := exists_writesDigits read
  exact ⟨negative, digits, places, .intro isSign writes,
    approximates_of_standsFor coefficient stands⟩

theorem WritesDigits.not_sign (writes : WritesDigits cs digits places) :
    ∀ c ∈ cs.head?, c ≠ '-' ∧ c ≠ '+' := by
  intro c first
  constructor <;> rintro rfl <;>
    rcases writes.mem _ (List.mem_of_head? first) with wrong | wrong | wrong <;> cases wrong

/-- What fits without an exponent is read without loss. -/
theorem WritesBase.exact (writes : WritesBase cs negative digits places)
    (fits : digits < 2 ^ 96) (within : places ≤ maxScale) :
    ∃ d, plain? cs = some d ∧ d.coefficient = withSign negative digits ∧ d.scale = places := by
  obtain ⟨isSign, writes⟩ := writes
  have bounded : (withSign negative digits).natAbs < 2 ^ 96 := by rwa [natAbs_withSign]
  refine ⟨⟨withSign negative digits, places, bounded, within⟩, ?_, rfl, rfl⟩
  rw [plain?_sign_append isSign fun _ => writes.not_sign,
    readDigits_of_writesDigits writes fits within]
  exact ofParts?_eq_some_iff.mpr ⟨rfl, rfl⟩

/-- A text has no mark, or it is a base before the first one and what stands behind it. -/
theorem exists_mark (cs : List Char) : (∀ c ∈ cs, ¬IsMark c) ∨
    ∃ base mark power, cs = base ++ mark :: power ∧ (∀ c ∈ base, ¬IsMark c) ∧ IsMark mark := by
  cases found : cs.find? (decide <| IsMark ·) with
  | none => exact .inl (by simpa using found)
  | some mark =>
      obtain ⟨isMark, base, power, rfl, unmarked⟩ := List.find?_eq_some_iff_append.mp found
      exact .inr ⟨base, mark, power, rfl, by simpa using unmarked, of_decide_eq_true isMark⟩

theorem not_isMark_iff {c : Char} : ¬IsMark c ↔ (!(c == 'e' || c == 'E')) = true := by
  simp [IsMark]

theorem scientific?_unmarked (unmarked : ∀ c ∈ cs, ¬IsMark c) : scientific? cs = none := by
  have all : ∀ c ∈ cs, (!(c == 'e' || c == 'E')) = true := fun c mem =>
    not_isMark_iff.mp (unmarked c mem)
  have rest := List.dropWhile_eq_nil_iff.mpr all
  simp only [scientific?, rest]

/-- The text is split at its first mark. -/
theorem split_mark (power : List Char) (unmarked : ∀ c ∈ base, ¬IsMark c)
    (isMark : IsMark mark) :
    (base ++ mark :: power).takeWhile (fun c => !(c == 'e' || c == 'E')) = base ∧
      (base ++ mark :: power).dropWhile (fun c => !(c == 'e' || c == 'E')) = mark :: power := by
  have all : ∀ c ∈ base, (!(c == 'e' || c == 'E')) = true := fun c mem =>
    not_isMark_iff.mp (unmarked c mem)
  have stop := not_isMark_iff.not.mp (not_not_intro isMark)
  constructor
  · rw [List.takeWhile_append_of_pos all,
      List.takeWhile_cons_of_neg (p := fun c => !(c == 'e' || c == 'E')) stop, List.append_nil]
  · rw [List.dropWhile_append_of_pos all,
      List.dropWhile_cons_of_neg (p := fun c => !(c == 'e' || c == 'E')) stop]

theorem toOption_eq_some_iff {ε α : Type} {x : Except ε α} {a : α} :
    x.toOption = some a ↔ x = .ok a := by
  cases x <;> simp [Except.toOption]

theorem scientific?_down (unmarked : ∀ c ∈ base, ¬IsMark c) (isMark : IsMark mark) :
    scientific? (base ++ mark :: '-' :: power) = some d ↔
      ∃ n, unsigned 32 power = .ok n ∧ ∃ b, plain? base = some b ∧ b.shiftDown n = some d := by
  obtain ⟨before, behind⟩ := split_mark ('-' :: power) unmarked isMark
  simp only [scientific?, before, behind, Option.bind_eq_bind, Option.bind_eq_some_iff,
    toOption_eq_some_iff]

theorem scientific?_up (unmarked : ∀ c ∈ base, ¬IsMark c) (isMark : IsMark mark)
    (up : ∀ rest, power ≠ '-' :: rest) :
    scientific? (base ++ mark :: power) = some d ↔
      ∃ n, unsigned 32 power = .ok n ∧ ∃ b, plain? base = some b ∧ b.shiftUp n = some d := by
  obtain ⟨before, behind⟩ := split_mark power unmarked isMark
  simp only [scientific?, before, behind, Option.bind_eq_bind, Option.bind_eq_some_iff,
    toOption_eq_some_iff]

end Exponents

/-- The text of an exponent of ten after its mark, or none. After a minus sign, a plus sign may
stand too. -/
inductive WritesExponent : List Char → Int → Prop
  | none : WritesExponent [] 0
  | up {mark : Char} {power : List Char} {n : Nat} : IsMark mark → WritesNatural power n →
    WritesExponent (mark :: power) n
  | down {mark : Char} {power : List Char} {n : Nat} : IsMark mark → WritesNatural power n →
    WritesExponent (mark :: '-' :: power) (-n)

end Decimal

/-! ## Numerals -/

/-- A sign, digits of which the last `places` stand behind the point, and an exponent of ten. -/
structure Numeral where
  negative : Bool
  digits : Nat
  places : Nat
  exponent : Int

namespace Numeral

open Number Decimal

/-- The text of a numeral. -/
inductive Writes : List Char → Numeral → Prop
  | intro {base behind : List Char} {negative : Bool} {digits places : Nat} {exponent : Int} :
    WritesBase base negative digits places → WritesExponent behind exponent →
    Writes (base ++ behind) ⟨negative, digits, places, exponent⟩

/-- The number that a numeral denotes. -/
def value (n : Numeral) : ℚ := withSign n.negative n.digits / 10 ^ n.places * 10 ^ n.exponent

/-- The digits and the places of a numeral fit into a decimal, before its exponent and after it. -/
structure Fits (n : Numeral) : Prop where
  digits_lt : n.digits < 2 ^ 96
  places_le : n.places ≤ maxScale
  exponent_le : n.exponent.natAbs ≤ maxScale
  lowered_places_le : n.places - n.exponent ≤ maxScale
  raised_digits_lt : n.digits * 10 ^ (n.exponent - n.places).toNat < 2 ^ 96

variable {cs : List Char} {d : Decimal} {n : Numeral}

/-- A decimal that is read is less than one unit of its last place away from a numeral of the
text. -/
theorem exists_writes (read : ofChars? cs = some d) :
    ∃ n : Numeral, Writes cs n ∧ |d.toRat - n.value| < 1 / 10 ^ d.scale := by
  rcases (Option.orElse_eq_some ..).mp read with plain | ⟨-, scientific⟩
  · obtain ⟨negative, digits, places, writes, approximates⟩ := exists_writesBase plain
    refine ⟨⟨negative, digits, places, 0⟩, ?_, ?_⟩
    · exact List.append_nil cs ▸ .intro writes .none
    · rw [value, zpow_zero, mul_one]
      exact approximates.abs_sub_lt
  · rcases exists_mark cs with unmarked | ⟨base, mark, power, rfl, unmarked, isMark⟩
    · rw [scientific?_unmarked unmarked] at scientific
      cases scientific
    · by_cases down : ∃ rest, power = '-' :: rest
      · obtain ⟨power, rfl⟩ := down
        obtain ⟨n, exponent, b, plain, shifted⟩ := (scientific?_down unmarked isMark).mp scientific
        obtain ⟨negative, digits, places, writes, approximates⟩ := exists_writesBase plain
        refine ⟨⟨negative, digits, places, -n⟩, .intro writes (.down isMark ?_), ?_⟩
        · exact (unsigned_eq_ok_iff.mp exponent).1
        · rw [value, zpow_neg, zpow_natCast, ← div_eq_mul_inv]
          exact abs_shiftDown_sub_lt approximates.abs_sub_lt shifted
      · obtain ⟨n, exponent, b, plain, shifted⟩ :=
          (scientific?_up unmarked isMark (not_exists.mp down)).mp scientific
        obtain ⟨negative, digits, places, writes, approximates⟩ := exists_writesBase plain
        refine ⟨⟨negative, digits, places, n⟩, .intro writes (.up isMark ?_), ?_⟩
        · exact (unsigned_eq_ok_iff.mp exponent).1
        · rw [value, zpow_natCast]
          exact abs_shiftUp_sub_lt approximates shifted

/-- A text with a mark is not read without an exponent. -/
theorem ofChars?_mark {mark : Char} (mem : mark ∈ cs) (isMark : IsMark mark) :
    ofChars? cs = scientific? cs := by
  have unread : plain? cs = none := by
    refine Option.eq_none_iff_forall_ne_some.mpr fun d read => ?_
    obtain ⟨_, _, _, writes, _⟩ := exists_writesBase read
    exact writes.unmarked mark mem isMark
  rw [ofChars?, unread]
  rfl

/-- A numeral that fits is read without loss. -/
theorem exists_ofChars?_of_fits (writes : Writes cs n) (fits : n.Fits) :
    ∃ d, ofChars? cs = some d ∧ d.toRat = n.value := by
  obtain ⟨digits_lt, places_le, exponent_le, lowered, raised⟩ := fits
  cases writes with
  | @intro base behind negative digits places exponent writes isExponent =>
      obtain ⟨b, read, coefficient, scale⟩ := writes.exact digits_lt places_le
      have worth : b.toRat = withSign negative digits / 10 ^ places := by
        rw [toRat, coefficient, scale]
      have unmarked := writes.unmarked
      dsimp only at exponent_le lowered raised
      cases isExponent with
      | none =>
          refine ⟨b, ?_, ?_⟩
          · rw [List.append_nil, ofChars?, read]
            rfl
          · rw [value, worth, zpow_zero, mul_one]
      | @up mark power n isMark writes =>
          have small : n ≤ maxScale := by omega
          have bounded : n < 2 ^ 32 := small.trans_lt (by decide)
          obtain ⟨r, shifted⟩ := exists_shiftUp (d := b) small <| by
            rwa [coefficient, natAbs_withSign, scale, ← Int.toNat_sub]
          refine ⟨r, ?_, ?_⟩
          · rw [ofChars?_mark List.mem_append_cons_self isMark,
              scientific?_up unmarked isMark writes.ne_minus]
            exact ⟨n, unsigned_eq_ok_iff.mpr ⟨writes, bounded⟩, b, read, shifted⟩
          · rw [toRat_of_shiftUp shifted, worth, value, zpow_natCast]
      | @down mark power n isMark writes =>
          have small : n ≤ maxScale := by omega
          have bounded : n < 2 ^ 32 := small.trans_lt (by decide)
          obtain ⟨r, shifted, exact⟩ := shiftDown_exact (d := b) (n := n) (by omega)
          refine ⟨r, ?_, ?_⟩
          · rw [ofChars?_mark List.mem_append_cons_self isMark, scientific?_down unmarked isMark]
            exact ⟨n, unsigned_eq_ok_iff.mpr ⟨writes, bounded⟩, b, read, shifted⟩
          · rw [exact, worth, value, zpow_neg, zpow_natCast, ← div_eq_mul_inv]

end Numeral
end QueryRegression
