import Mathlib.Tactic.Linarith
import Mathlib.Tactic.Positivity
import QueryRegression.Proofs.NumberTexts
import QueryRegression.Proofs.ToleranceBand

/-!
# Digits of decimals

Which texts without an exponent are read as decimals, and which numbers these stand for. Digits that
do not fit are rounded off, so a decimal is compared with the number that all digits write.

* `Decimal.exists_writesDigits`: what is read is digits with at most one point, and it is their
  number unless there is no room for one place more.
* `Decimal.readDigits_of_writesDigits`: digits that fit are read without loss.
-/

namespace QueryRegression.Decimal

open Number

/-! ## Places -/

/-- The digits of a text, read behind a value. -/
def digitsBehind (value : Nat) (cs : List Char) : Nat :=
  Nat.ofDigitChars 10 (cs.filter Char.isDigit) value

/-- The number of digits of a text. -/
def digitCount (cs : List Char) : Nat := (cs.filter Char.isDigit).length

theorem digitsBehind_digit {c : Char} (digit : c.isDigit = true) (value : Nat) (cs : List Char) :
    digitsBehind value (c :: cs) = digitsBehind (10 * value + (c.toNat - 48)) cs := by
  rw [digitsBehind, List.filter_cons_of_pos digit, Nat.ofDigitChars_cons]
  rfl

theorem digitsBehind_separator {c : Char} (separator : ¬c.isDigit = true) (value : Nat)
    (cs : List Char) : digitsBehind value (c :: cs) = digitsBehind value cs := by
  rw [digitsBehind, digitsBehind, List.filter_cons_of_neg separator]

theorem digitCount_digit {c : Char} (digit : c.isDigit = true) (cs : List Char) :
    digitCount (c :: cs) = digitCount cs + 1 := by
  rw [digitCount, digitCount, List.filter_cons_of_pos digit, List.length_cons]

theorem digitCount_separator {c : Char} (separator : ¬c.isDigit = true) (cs : List Char) :
    digitCount (c :: cs) = digitCount cs := by
  rw [digitCount, digitCount, List.filter_cons_of_neg separator]

theorem le_digitsBehind (value : Nat) (cs : List Char) : value ≤ digitsBehind value cs :=
  le_ofDigitChars _ value

/-- The number that is written with a value, of which `scale` digits stand behind the point, and
with more characters behind it. -/
def continued (value scale : Nat) (cs : List Char) : ℚ :=
  digitsBehind value cs / 10 ^ (scale + digitCount cs)

theorem continued_nil (value scale : Nat) : continued value scale [] = value / 10 ^ scale := rfl

theorem continued_digit {c : Char} (digit : c.isDigit = true) (value scale : Nat)
    (cs : List Char) :
    continued value scale (c :: cs) = continued (10 * value + (c.toNat - 48)) (scale + 1) cs := by
  rw [continued, continued, digitsBehind_digit digit, digitCount_digit digit, Nat.add_right_comm,
    Nat.add_assoc]

theorem continued_separator {c : Char} (separator : ¬c.isDigit = true) (value scale : Nat)
    (cs : List Char) : continued value scale (c :: cs) = continued value scale cs := by
  rw [continued, continued, digitsBehind_separator separator, digitCount_separator separator]

/-- One more place. -/
theorem div_ten_pow (x : ℚ) (scale : Nat) : x / 10 ^ scale = 10 * x / 10 ^ (scale + 1) := by
  rw [pow_succ, mul_comm 10 x, mul_div_mul_right x _ (by norm_num)]

/-- More digits add less than one unit of the last place. -/
theorem continued_bounds (value scale : Nat) (cs : List Char) :
    value / 10 ^ scale ≤ continued value scale cs ∧
      continued value scale cs < (value + 1) / 10 ^ scale := by
  induction cs generalizing value scale with
  | nil =>
      rw [continued_nil]
      exact ⟨le_refl _, by gcongr; linarith⟩
  | cons c cs ih =>
      by_cases digit : c.isDigit = true
      · obtain ⟨lower, upper⟩ := ih (10 * value + (c.toNat - 48)) (scale + 1)
        have small : ((c.toNat - 48 : Nat) : ℚ) ≤ 9 := by
          have greatest := (isDigit_iff.mp digit).2
          exact_mod_cast (by omega : c.toNat - 48 ≤ 9)
        rw [continued_digit digit, div_ten_pow, div_ten_pow (value + 1)]
        push_cast at lower upper
        constructor
        · refine le_trans ?_ lower
          gcongr
          exact le_add_of_nonneg_right (Nat.cast_nonneg _)
        · refine lt_of_lt_of_le upper ?_
          gcongr
          linarith
      · rw [continued_separator digit]
        exact ih value scale

/-- A magnitude with some places stands for a number: it is that number, or it is less than one unit
of its last place away, where one place more would not fit. -/
def StandsFor (magnitude scale : Nat) (x : ℚ) : Prop :=
  magnitude / 10 ^ scale = x ∨
    |magnitude / 10 ^ scale - x| < 1 / 10 ^ scale ∧
      (scale = maxScale ∨ 2 ^ 96 ≤ 10 * magnitude)

theorem ofParts?_eq_some_iff {coefficient : Int} {scale : Nat} {d : Decimal} :
    ofParts? coefficient scale = some d ↔ d.coefficient = coefficient ∧ d.scale = scale := by
  unfold ofParts?
  constructor
  · intro made
    split at made
    · cases made
      exact ⟨rfl, rfl⟩
    · cases made
  · rintro ⟨rfl, rfl⟩
    exact dif_pos ⟨d.coefficient_lt, d.scale_le⟩

section RoundingOff

variable {value scale : Nat} {dropped : Char} {rest : List Char}

/-- No further digit fits, and the next one is this character or stands behind it. -/
def IsFull (value scale : Nat) (dropped : Char) : Prop :=
  scale = maxScale ∨ dropped.isDigit = true ∧ 2 ^ 96 ≤ 10 * value + (dropped.toNat - 48)

theorem standsFor_of_dropped (full : IsFull value scale dropped)
    (low : ¬(53 ≤ dropped.toNat ∧ dropped ≠ '_')) :
    StandsFor value scale (continued value scale (dropped :: rest)) := by
  obtain ⟨lower, upper⟩ := continued_bounds value scale (dropped :: rest)
  refine .inr ⟨?_, full.imp_right fun ⟨digit, beyond⟩ => ?_⟩
  · rw [abs_sub_comm, abs_of_nonneg (sub_nonneg.mpr lower), sub_lt_iff_lt_add', ← add_div]
    exact upper
  · have notSeparator : dropped ≠ '_' := by
      rintro rfl
      cases digit
    have below : dropped.toNat < 53 := Nat.not_le.mp fun high => low ⟨high, notSeparator⟩
    omega

theorem standsFor_of_raised (digit : dropped.isDigit = true) (full : IsFull value scale dropped)
    (high : 53 ≤ dropped.toNat) :
    StandsFor (value + 1) scale (continued value scale (dropped :: rest)) := by
  obtain ⟨-, upper⟩ := continued_bounds value scale (dropped :: rest)
  obtain ⟨lower, -⟩ := continued_bounds (10 * value + (dropped.toNat - 48)) (scale + 1) rest
  have greatest := (isDigit_iff.mp digit).2
  refine .inr ⟨?_, full.imp_right fun ⟨_, beyond⟩ => by omega⟩
  have atLeast : ((5 : Nat) : ℚ) ≤ (dropped.toNat - 48 : Nat) := by
    exact_mod_cast (by omega : 5 ≤ dropped.toNat - 48)
  push_cast
  rw [abs_of_pos (sub_pos.mpr upper), sub_lt_comm, ← sub_div, div_ten_pow]
  rw [continued_digit digit]
  refine lt_of_lt_of_le ?_ lower
  push_cast at atLeast ⊢
  gcongr
  linarith

/-- A magnitude that rounding makes too great gives up a place. -/
theorem standsFor_of_raised_beyond (positive : scale ≠ 0) (beyond : value + 1 = 2 ^ 96) :
    StandsFor ((value + 1 + 4) / 10) (scale - 1) (continued value scale (dropped :: rest)) := by
  obtain ⟨lower, upper⟩ := continued_bounds value scale (dropped :: rest)
  obtain ⟨places, rfl⟩ := Nat.exists_eq_succ_of_ne_zero positive
  have tenth : 10 * ((value + 1 + 4) / 10) = value + 5 := by omega
  have tenthRat : 10 * (((value + 1 + 4) / 10 : Nat) : ℚ) = value + 5 := by exact_mod_cast tenth
  refine .inr ⟨?_, .inr (by omega)⟩
  rw [Nat.succ_eq_add_one, Nat.add_sub_cancel, div_ten_pow, div_ten_pow 1, tenthRat, abs_lt]
  rw [Nat.succ_eq_add_one] at lower upper
  constructor
  · rw [neg_lt_sub_iff_lt_add, ← add_div]
    exact upper.trans (div_lt_div_of_pos_right (by linarith) (by positivity))
  · rw [sub_lt_iff_lt_add]
    refine lt_of_lt_of_le ?_ (add_le_add le_rfl lower)
    rw [← add_div]
    exact div_lt_div_of_pos_right (by linarith) (by positivity)

end RoundingOff

/-- What rounding off makes of a number. -/
theorem roundOff_standsFor {negative : Bool} {value scale : Nat} {dropped : Char}
    {rest : List Char} {d : Decimal} (within : value < 2 ^ 96)
    (full : IsFull value scale dropped)
    (read : roundOff negative value scale dropped rest = some d) :
    onlyDigits (dropped :: rest) = true ∧
      ∃ magnitude, d.coefficient = withSign negative magnitude ∧
        StandsFor magnitude d.scale (continued value scale (dropped :: rest)) := by
  rw [roundOff] at read
  dsimp only at read
  by_cases only : onlyDigits (dropped :: rest) = true
  · refine ⟨only, ?_⟩
    rw [only, Bool.not_true, if_neg Bool.false_ne_true] at read
    by_cases up : 53 ≤ dropped.toNat ∧ dropped ≠ '_'
    · have digit : dropped.isDigit = true := by
        have first := (List.forall_mem_cons.mp (List.all_eq_true.mp only)).1
        simpa [up.2] using first
      rw [if_pos up] at read
      by_cases fits : value + 1 < 2 ^ 96
      · rw [if_pos fits] at read
        obtain ⟨coefficient, rfl⟩ := ofParts?_eq_some_iff.mp read
        exact ⟨_, coefficient, standsFor_of_raised digit full up.1⟩
      · rw [if_neg fits] at read
        by_cases whole : scale = 0
        · rw [if_pos whole] at read
          cases read
        · rw [if_neg whole] at read
          obtain ⟨coefficient, places⟩ := ofParts?_eq_some_iff.mp read
          refine ⟨_, coefficient, places ▸ ?_⟩
          exact standsFor_of_raised_beyond whole (by omega)
    · rw [if_neg up, if_pos within] at read
      obtain ⟨coefficient, rfl⟩ := ofParts?_eq_some_iff.mp read
      exact ⟨_, coefficient, standsFor_of_dropped full up⟩
  · rw [Bool.not_eq_true] at only
    rw [only, Bool.not_false, if_pos rfl] at read
    cases read

/-! ## Digits -/

section Digits

variable {negative any : Bool} {value scale : Nat} {d : Decimal}

theorem onlyDigits_cons {c : Char} {cs : List Char} :
    onlyDigits (c :: cs) = true ↔ (c.isDigit = true ∨ c = '_') ∧ onlyDigits cs = true := by
  rw [onlyDigits, List.all_cons, Bool.and_eq_true, Bool.or_eq_true, beq_iff_eq]
  rfl

/-- The first character is a digit. -/
def BeginsWithDigit (cs : List Char) : Prop := ∃ c ∈ cs.head?, c.isDigit = true

theorem beginsWithDigit_cons {c : Char} {cs : List Char} :
    BeginsWithDigit (c :: cs) ↔ c.isDigit = true := by
  simp [BeginsWithDigit]

/-- What the digits behind the point make of a value. -/
theorem standsFor_of_readDigits {cs : List Char} (within : value < 2 ^ 96)
    (read : readDigits negative true any value scale cs = some d) :
    onlyDigits cs = true ∧ (any = true ∨ BeginsWithDigit cs) ∧
      ∃ magnitude, d.coefficient = withSign negative magnitude ∧
        StandsFor magnitude d.scale (continued value scale cs) := by
  induction cs generalizing any value scale with
  | nil =>
      rw [readDigits] at read
      split at read
      next any =>
        obtain ⟨coefficient, rfl⟩ := ofParts?_eq_some_iff.mp read
        exact ⟨rfl, .inl any, value, coefficient, .inl rfl⟩
      next => cases read
  | cons c rest ih =>
      rw [readDigits] at read
      by_cases digit : c.isDigit = true
      · have first : any = true ∨ BeginsWithDigit (c :: rest) :=
          .inr (beginsWithDigit_cons.mpr digit)
        rw [if_pos digit] at read
        dsimp only at read
        split at read
        next full =>
          have full : IsFull value scale c := by simpa [IsFull, digit] using full
          obtain ⟨only, stands⟩ := roundOff_standsFor within full read
          exact ⟨only, first, stands⟩
        next notFull =>
          have fits : 10 * value + (c.toNat - 48) < 2 ^ 96 := by
            by_contra beyond
            exact notFull (by simpa using .inr (Nat.le_of_not_lt beyond))
          rw [if_neg (Nat.not_le.mpr fits), if_pos rfl] at read
          obtain ⟨only, -, stands⟩ := ih fits read
          rw [continued_digit digit]
          exact ⟨onlyDigits_cons.mpr ⟨.inl digit, only⟩, first, stands⟩
      · rw [if_neg digit, if_neg (by simp)] at read
        split at read
        next separator =>
          obtain ⟨rfl, any⟩ := separator
          split at read
          next full =>
            have full : IsFull value scale '_' := .inl (by simpa using full)
            obtain ⟨only, stands⟩ := roundOff_standsFor within full read
            exact ⟨only, .inl any, stands⟩
          next =>
            obtain ⟨only, -, stands⟩ := ih within read
            rw [continued_separator digit]
            exact ⟨onlyDigits_cons.mpr ⟨.inr rfl, only⟩, .inl any, stands⟩
        next => cases read

/-- Separators at the end change nothing. -/
theorem roundOff_separator {rest : List Char} (only : onlyDigits rest = true)
    (within : value < 2 ^ 96) :
    roundOff negative value scale '_' rest = ofParts? (withSign negative value) scale := by
  have all : onlyDigits ('_' :: rest) = true := onlyDigits_cons.mpr ⟨.inr rfl, only⟩
  rw [roundOff, all, Bool.not_true, if_neg Bool.false_ne_true]
  dsimp only
  have kept : ¬(53 ≤ '_'.toNat ∧ '_' ≠ '_') := fun up => up.2 rfl
  rw [if_neg kept, if_pos within]
  rfl

/-- Digits behind the point that fit are read without loss. -/
theorem readDigits_exact {cs : List Char} (only : onlyDigits cs = true)
    (first : any = true ∨ BeginsWithDigit cs)
    (fits : digitsBehind value cs < 2 ^ 96) (places : scale + digitCount cs ≤ maxScale) :
    readDigits negative true any value scale cs =
      ofParts? (withSign negative (digitsBehind value cs)) (scale + digitCount cs) := by
  induction cs generalizing any value scale with
  | nil =>
      have any : any = true := by simpa [BeginsWithDigit] using first
      rw [readDigits, if_pos any]
      rfl
  | cons c rest ih =>
      obtain ⟨character, rest_only⟩ := onlyDigits_cons.mp only
      rw [readDigits]
      by_cases digit : c.isDigit = true
      · rw [digitsBehind_digit digit] at fits ⊢
        rw [digitCount_digit digit] at places ⊢
        have next : 10 * value + (c.toNat - 48) < 2 ^ 96 :=
          (le_digitsBehind _ rest).trans_lt fits
        have scale_ne : scale ≠ maxScale := by omega
        rw [if_pos digit]
        dsimp only
        rw [if_neg (by simpa [scale_ne] using next), if_neg (Nat.not_le.mpr next), if_pos rfl,
          ih rest_only (.inl rfl) fits (by omega), Nat.add_assoc, Nat.add_comm 1]
      · obtain rfl := character.resolve_left digit
        have any : any = true := first.resolve_right (digit ∘ beginsWithDigit_cons.mp)
        rw [digitsBehind_separator digit] at fits ⊢
        rw [digitCount_separator digit] at places ⊢
        have within : value < 2 ^ 96 := (le_digitsBehind _ rest).trans_lt fits
        rw [if_neg digit, if_neg (by simp), if_pos ⟨rfl, any⟩]
        split
        next full =>
          have scale_eq : scale = maxScale := by simpa using full
          have none : rest.filter Char.isDigit = [] := by
            rw [← List.length_eq_zero_iff]
            exact Nat.le_zero.mp (Nat.le_of_add_le_add_left (scale_eq ▸ places))
          rw [roundOff_separator rest_only within, digitsBehind, digitCount, none]
          rfl
        next => exact ih rest_only (.inl any) fits places

/-- What is read of the digits before the point. -/
theorem readDigits_whole_eq_some_iff {whole rest : List Char} (only : onlyDigits whole = true)
    (within : value < 2 ^ 96) :
    readDigits negative false any value 0 (whole ++ rest) = some d ↔
      (∀ c ∈ whole.head?, any = true ∨ c.isDigit = true) ∧ digitsBehind value whole < 2 ^ 96 ∧
        readDigits negative false (any || !whole.isEmpty) (digitsBehind value whole) 0 rest =
          some d := by
  induction whole generalizing any value with
  | nil => simp [digitsBehind, within]
  | cons c whole ih =>
      obtain ⟨character, only⟩ := onlyDigits_cons.mp only
      rw [List.cons_append, readDigits]
      by_cases digit : c.isDigit = true
      · rw [digitsBehind_digit digit, if_pos digit]
        dsimp only
        rw [if_neg (by simp)]
        by_cases fits : 10 * value + (c.toNat - 48) < 2 ^ 96
        · rw [if_neg (Nat.not_le.mpr fits), if_neg Bool.false_ne_true, ih only fits]
          simp [digit]
        · rw [if_pos (Nat.le_of_not_lt fits)]
          refine iff_of_false nofun fun read => fits ?_
          exact (le_digitsBehind _ whole).trans_lt read.2.1
      · obtain rfl := character.resolve_left digit
        rw [digitsBehind_separator digit, if_neg digit, if_neg (by simp)]
        by_cases any : any = true
        · rw [if_pos ⟨rfl, any⟩, if_neg (by simp), ih only within]
          simp [any]
        · rw [if_neg fun separator => any separator.2]
          refine iff_of_false nofun fun read => ?_
          exact (read.1 '_' rfl).elim any digit

end Digits

/-! ## Plain form -/

/-- Digits with at most one point, the number they make without it, and how many of them stand
behind it. Separators may stand behind the first digit. -/
inductive WritesDigits : List Char → Nat → Nat → Prop
  | whole {cs : List Char} : onlyDigits cs = true → BeginsWithDigit cs →
    WritesDigits cs (digitsBehind 0 cs) 0
  | pointed {whole fraction : List Char} : onlyDigits whole = true → onlyDigits fraction = true →
    BeginsWithDigit (whole ++ fraction) →
    WritesDigits (whole ++ '.' :: fraction) (digitsBehind 0 (whole ++ fraction))
      (digitCount fraction)

theorem digitsBehind_append (value : Nat) (cs ds : List Char) :
    digitsBehind value (cs ++ ds) = digitsBehind (digitsBehind value cs) ds := by
  rw [digitsBehind, List.filter_append, Nat.ofDigitChars_append]
  rfl

/-- Every text is digits and separators, and a rest that begins with neither. -/
theorem exists_onlyDigits_append (cs : List Char) :
    ∃ whole rest, cs = whole ++ rest ∧ onlyDigits whole = true ∧
      ∀ c ∈ rest.head?, c.isDigit = false ∧ c ≠ '_' := by
  refine ⟨cs.takeWhile fun c => c.isDigit || c == '_', cs.dropWhile fun c => c.isDigit || c == '_',
    List.takeWhile_append_dropWhile.symm, List.all_takeWhile, ?_⟩
  intro c first
  simpa using stops_dropWhile (fun c => c.isDigit || c == '_') cs c first

section Plain

variable {negative : Bool} {cs : List Char} {d : Decimal}

/-- The digits before the point begin with a digit, or there are none and those behind it do. -/
theorem beginsWithDigit_append {whole fraction : List Char} :
    BeginsWithDigit (whole ++ fraction) ↔
      (∀ c ∈ whole.head?, false = true ∨ c.isDigit = true) ∧
        ((false || !whole.isEmpty) = true ∨ BeginsWithDigit fraction) := by
  cases whole <;> simp [BeginsWithDigit]

theorem not_beginsWithDigit_nil : ¬BeginsWithDigit [] := nofun

/-- The digits that are read stand for the number that they write. -/
theorem exists_writesDigits (read : readDigits negative false false 0 0 cs = some d) :
    ∃ digits places, WritesDigits cs digits places ∧
      ∃ magnitude, d.coefficient = withSign negative magnitude ∧
        StandsFor magnitude d.scale (digits / 10 ^ places) := by
  obtain ⟨whole, rest, rfl, only, stops⟩ := exists_onlyDigits_append cs
  obtain ⟨first, fits, behind⟩ := (readDigits_whole_eq_some_iff only (by decide)).mp read
  cases rest with
  | nil =>
      rw [readDigits] at behind
      split at behind
      next any =>
        obtain ⟨coefficient, scale⟩ := ofParts?_eq_some_iff.mp behind
        have begins := beginsWithDigit_append.mpr ⟨first, .inl (b := BeginsWithDigit []) any⟩
        rw [List.append_nil] at begins ⊢
        exact ⟨_, 0, .whole only begins, _, coefficient, scale ▸ .inl rfl⟩
      next => cases behind
  | cons c fraction =>
      obtain ⟨notDigit, notSeparator⟩ := stops c rfl
      rw [readDigits, if_neg (by simp [notDigit])] at behind
      split at behind
      next point =>
        obtain ⟨rfl, -⟩ := point
        obtain ⟨onlyFraction, begins, stands⟩ := standsFor_of_readDigits fits behind
        refine ⟨_, _, .pointed only onlyFraction (beginsWithDigit_append.mpr ⟨first, begins⟩), ?_⟩
        rwa [continued, Nat.zero_add, ← digitsBehind_append] at stands
      next => simp [notSeparator] at behind

/-- Digits that fit are read without loss. -/
theorem readDigits_of_writesDigits {digits places : Nat} (writes : WritesDigits cs digits places)
    (fits : digits < 2 ^ 96) (within : places ≤ maxScale) :
    readDigits negative false false 0 0 cs = ofParts? (withSign negative digits) places := by
  refine Option.ext fun d => ?_
  cases writes with
  | whole only begins =>
      rw [← List.append_nil cs] at begins
      obtain ⟨first, any⟩ := beginsWithDigit_append.mp begins
      have any := any.resolve_right not_beginsWithDigit_nil
      conv_lhs => rw [← List.append_nil cs]
      rw [readDigits_whole_eq_some_iff only (by decide), readDigits, if_pos any]
      exact ⟨fun read => read.2.2, fun read => ⟨first, fits, read⟩⟩
  | pointed only onlyFraction begins =>
      obtain ⟨first, any⟩ := beginsWithDigit_append.mp begins
      rw [digitsBehind_append] at fits ⊢
      rw [readDigits_whole_eq_some_iff only (by decide), readDigits, if_neg (by decide),
        if_pos (by decide), readDigits_exact onlyFraction any fits (by rwa [Nat.zero_add]),
        Nat.zero_add]
      exact ⟨fun read => read.2.2, fun read => ⟨first, (le_digitsBehind _ _).trans_lt fits, read⟩⟩

/-- After a sign, or no sign, the digits are read. -/
theorem plain?_sign_append {sign rest : List Char} (isSign : IsSign sign negative)
    (bare : sign = [] → ∀ c ∈ rest.head?, c ≠ '-' ∧ c ≠ '+') :
    plain? (sign ++ rest) = readDigits negative false false 0 0 rest := by
  cases isSign with
  | plus => rfl
  | minus => rfl
  | none =>
      cases rest with
      | nil => rfl
      | cons c rest =>
          obtain ⟨notMinus, notPlus⟩ := bare rfl c rfl
          rw [List.nil_append, plain?.eq_def]
          split <;> simp_all

end Plain

end QueryRegression.Decimal
