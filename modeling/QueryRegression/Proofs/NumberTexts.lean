import QueryRegression.Number.Binary.Reader
import QueryRegression.Number.Integer

/-!
# Numbers as texts

Grammars of integers and of floating-point numbers, and that the readers accept the texts of these
grammars and no others.

* `Number.signed_eq_ok_iff`, `Number.unsigned_eq_ok_iff`: the integers of a number of bits.
* `Binary.isSome_ofChars?_iff`: floating-point numbers of any format.
-/

namespace QueryRegression

namespace Number

/-! ## Digits -/

/-- The text of an optional sign, and whether it is the minus sign. -/
inductive IsSign : List Char → Bool → Prop
  | none : IsSign [] false
  | plus : IsSign ['+'] false
  | minus : IsSign ['-'] true

/-- What stands behind the longest beginning of one kind does not go on with this kind. -/
theorem stops_dropWhile {α : Type} (p : α → Bool) (l : List α) :
    ∀ a ∈ (l.dropWhile p).head?, p a = false := by
  intro a first
  simpa [Option.mem_def.mp first] using List.head?_dropWhile_not p l

/-- All characters are digits. -/
def AllDigits (cs : List Char) : Prop := ∀ c ∈ cs, c.isDigit = true

/-- The number with a sign. -/
def withSign (negative : Bool) (n : Nat) : Int := if negative then -(n : Int) else n

theorem isDigit_iff {c : Char} : c.isDigit = true ↔ 48 ≤ c.toNat ∧ c.toNat ≤ 57 :=
  Char.isDigit_iff_toNat

/-- A digit is no sign. -/
theorem ne_sign_of_isDigit {c : Char} (digit : c.isDigit = true) : c ≠ '-' ∧ c ≠ '+' := by
  constructor <;> (rintro rfl; cases digit)

theorem le_ofDigitChars (cs : List Char) (value : Nat) : value ≤ Nat.ofDigitChars 10 cs value := by
  induction cs generalizing value with
  | nil => exact Nat.le_of_eq Nat.ofDigitChars_nil.symm
  | cons c cs ih =>
      rw [Nat.ofDigitChars_cons]
      have grown := ih (10 * value + (c.toNat - '0'.toNat))
      omega

/-- Digits are read up to a limit if and only if their value is not beyond it. -/
theorem digitsUpTo_eq_ok_iff {limit value n : Nat} {fault : IntegerFault} {cs : List Char}
    (within : value ≤ limit) :
    digitsUpTo limit fault value cs = .ok n ↔
      AllDigits cs ∧ Nat.ofDigitChars 10 cs value = n ∧ n ≤ limit := by
  induction cs generalizing value with
  | nil =>
      rw [digitsUpTo, Nat.ofDigitChars_nil, Except.ok.injEq]
      exact ⟨fun same => ⟨List.forall_mem_nil _, same, same ▸ within⟩, fun read => read.2.1⟩
  | cons c rest ih =>
      rw [digitsUpTo, Nat.ofDigitChars_cons, AllDigits, List.forall_mem_cons]
      by_cases digit : c.isDigit = true
      · rw [if_pos digit]
        by_cases fits : 10 * value + (c.toNat - 48) ≤ limit
        · exact (if_pos fits).symm ▸ (ih fits).trans (and_congr_left' (and_iff_right digit).symm)
        · have grown := le_ofDigitChars rest (10 * value + (c.toNat - 48))
          refine iff_of_false ((if_neg fits).symm ▸ nofun) ?_
          rintro ⟨-, rfl, le⟩
          exact fits (Nat.le_trans grown le)
      · rw [if_neg digit]
        exact iff_of_false nofun fun read => digit read.1.1

/-! ## Integers -/

/-- The text of an integer: an optional sign and digits. -/
inductive WritesInteger : List Char → Int → Prop
  | intro {sign digits : List Char} {negative : Bool} : IsSign sign negative → digits ≠ [] →
    AllDigits digits →
    WritesInteger (sign ++ digits) (withSign negative (Nat.ofDigitChars 10 digits 0))

/-- The text of a natural number: digits, and a plus sign before them or none. -/
inductive WritesNatural : List Char → Nat → Prop
  | intro {sign digits : List Char} : IsSign sign false → digits ≠ [] → AllDigits digits →
    WritesNatural (sign ++ digits) (Nat.ofDigitChars 10 digits 0)

/-- Every text is an optional sign and a rest, which begins with no sign unless there is one. -/
theorem exists_isSign (cs : List Char) :
    ∃ sign rest negative, IsSign sign negative ∧ cs = sign ++ rest ∧
      (sign = [] → ∀ c ∈ rest.head?, c ≠ '-' ∧ c ≠ '+') := by
  by_cases minus : cs.head? = some '-'
  · obtain ⟨rest, rfl⟩ := List.head?_eq_some_iff.mp minus
    exact ⟨['-'], rest, true, .minus, rfl, nofun⟩
  · by_cases plus : cs.head? = some '+'
    · obtain ⟨rest, rfl⟩ := List.head?_eq_some_iff.mp plus
      exact ⟨['+'], rest, false, .plus, rfl, nofun⟩
    · refine ⟨[], cs, false, .none, rfl, fun _ c head => ⟨?_, ?_⟩⟩
      · exact fun same => minus (same ▸ head)
      · exact fun same => plus (same ▸ head)

/-- After a sign, or no sign, the rest is read as digits. -/
theorem signed_sign_append {bits : Nat} {sign rest : List Char} {negative : Bool}
    (isSign : IsSign sign negative) (nonempty : rest ≠ [])
    (bare : sign = [] → ∀ c ∈ rest.head?, c ≠ '-' ∧ c ≠ '+') :
    signed bits (sign ++ rest) =
      (digitsUpTo (if negative then 2 ^ bits else 2 ^ bits - 1)
        (if negative then .tooSmall else .tooLarge) 0 rest).map (withSign negative) := by
  obtain ⟨c, rest, rfl⟩ := List.exists_cons_of_ne_nil nonempty
  cases isSign with
  | plus => rfl
  | minus => rfl
  | none =>
      obtain ⟨notMinus, notPlus⟩ := bare rfl c rfl
      rw [List.nil_append, signed.eq_def]
      split <;> simp_all
      rfl

theorem not_sign_of_allDigits {digits : List Char} (all : AllDigits digits) :
    ∀ c ∈ digits.head?, c ≠ '-' ∧ c ≠ '+' := fun _ first =>
  ne_sign_of_isDigit (all _ (List.mem_of_head? first))

theorem map_eq_ok_iff {ε α β : Type} {f : α → β} {read : Except ε α} {b : β} :
    read.map f = .ok b ↔ ∃ a, read = .ok a ∧ f a = b := by
  cases read <;> simp [Except.map]

/-- No minus sign stands before a natural number. -/
theorem WritesNatural.ne_minus {cs : List Char} {n : Nat} (writes : WritesNatural cs n)
    (rest : List Char) : cs ≠ '-' :: rest := by
  obtain ⟨isSign, nonempty, all⟩ := writes
  cases isSign with
  | none =>
      rintro rfl
      exact (not_sign_of_allDigits all '-' rfl).1 rfl
  | plus => nofun

/-- A number with a sign is in the range of so many bits if its digits do not go beyond the limit of
the sign. -/
theorem withSign_range_iff {bits value : Nat} (negative : Bool) :
    (-((2 ^ bits : Nat) : Int) ≤ withSign negative value ∧
        withSign negative value < (2 ^ bits : Nat)) ↔
      value ≤ if negative then 2 ^ bits else 2 ^ bits - 1 := by
  have positive : 0 < 2 ^ bits := Nat.two_pow_pos bits
  cases negative <;> simp only [withSign, if_true, Bool.false_eq_true, if_false] <;> omega

/-- The integers of so many bits are read from their texts and from no others. -/
theorem signed_eq_ok_iff {bits : Nat} {cs : List Char} {n : Int} :
    signed bits cs = .ok n ↔
      WritesInteger cs n ∧ -((2 ^ bits : Nat) : Int) ≤ n ∧ n < (2 ^ bits : Nat) := by
  have read : ∀ {sign rest : List Char} {negative : Bool}, IsSign sign negative → rest ≠ [] →
      (sign = [] → ∀ c ∈ rest.head?, c ≠ '-' ∧ c ≠ '+') →
      (signed bits (sign ++ rest) = .ok n ↔ AllDigits rest ∧
        withSign negative (Nat.ofDigitChars 10 rest 0) = n ∧
        -((2 ^ bits : Nat) : Int) ≤ n ∧ n < (2 ^ bits : Nat)) := by
    intro sign rest negative isSign nonempty bare
    rw [signed_sign_append isSign nonempty bare, map_eq_ok_iff]
    simp only [digitsUpTo_eq_ok_iff (Nat.zero_le _)]
    constructor
    · rintro ⟨_, ⟨digits, rfl, within⟩, rfl⟩
      exact ⟨digits, rfl, (withSign_range_iff negative).mpr within⟩
    · rintro ⟨digits, rfl, range⟩
      exact ⟨_, ⟨digits, rfl, (withSign_range_iff negative).mp range⟩, rfl⟩
  constructor
  · intro ok
    obtain ⟨sign, rest, negative, isSign, rfl, bare⟩ := exists_isSign cs
    by_cases nonempty : rest = []
    · subst nonempty
      cases isSign <;> cases ok
    · obtain ⟨digits, rfl, range⟩ := (read isSign nonempty bare).mp ok
      exact ⟨.intro isSign nonempty digits, range⟩
  · rintro ⟨⟨isSign, nonempty, digits⟩, range⟩
    exact (read isSign nonempty fun _ => not_sign_of_allDigits digits).mpr ⟨digits, rfl, range⟩

/-- A text is that of one integer at most, since enough bits hold any two. -/
theorem WritesInteger.unique {cs : List Char} {m n : Int} (first : WritesInteger cs m)
    (second : WritesInteger cs n) : m = n := by
  have bits : m.natAbs + n.natAbs < 2 ^ (m.natAbs + n.natAbs) := Nat.lt_two_pow_self
  have readFirst : signed (m.natAbs + n.natAbs) cs = .ok m :=
    signed_eq_ok_iff.mpr ⟨first, by omega, by omega⟩
  have readSecond : signed (m.natAbs + n.natAbs) cs = .ok n :=
    signed_eq_ok_iff.mpr ⟨second, by omega, by omega⟩
  exact Except.ok.inj (readFirst.symm.trans readSecond)

/-- After a plus sign, or no sign, the rest is read as digits. -/
theorem unsigned_sign_append {bits : Nat} {sign rest : List Char}
    (isSign : IsSign sign false) (nonempty : rest ≠ [])
    (bare : sign = [] → ∀ c ∈ rest.head?, c ≠ '-' ∧ c ≠ '+') :
    Number.unsigned bits (sign ++ rest) = digitsUpTo (2 ^ bits - 1) .tooLarge 0 rest := by
  obtain ⟨c, rest, rfl⟩ := List.exists_cons_of_ne_nil nonempty
  cases isSign with
  | plus => rfl
  | none =>
      obtain ⟨notMinus, notPlus⟩ := bare rfl c rfl
      rw [List.nil_append, unsigned.eq_def]
      split <;> simp_all

/-- The natural numbers of so many bits are read from their texts and from no others. -/
theorem unsigned_eq_ok_iff {bits n : Nat} {cs : List Char} :
    unsigned bits cs = .ok n ↔ WritesNatural cs n ∧ n < 2 ^ bits := by
  have positive : 0 < 2 ^ bits := Nat.two_pow_pos bits
  have read : ∀ {sign rest : List Char}, IsSign sign false → rest ≠ [] →
      (sign = [] → ∀ c ∈ rest.head?, c ≠ '-' ∧ c ≠ '+') →
      (unsigned bits (sign ++ rest) = .ok n ↔ AllDigits rest ∧
        Nat.ofDigitChars 10 rest 0 = n ∧ n < 2 ^ bits) := by
    intro sign rest isSign nonempty bare
    rw [unsigned_sign_append isSign nonempty bare, digitsUpTo_eq_ok_iff (Nat.zero_le _)]
    exact and_congr_right' (and_congr_right' (by omega))
  constructor
  · intro ok
    obtain ⟨sign, rest, negative, isSign, rfl, bare⟩ := exists_isSign cs
    by_cases nonempty : rest = []
    · subst nonempty
      cases isSign <;> cases ok
    · cases negative with
      | true =>
          obtain ⟨c, rest, rfl⟩ := List.exists_cons_of_ne_nil nonempty
          cases isSign
          cases ok
      | false =>
          obtain ⟨digits, rfl, range⟩ := (read isSign nonempty bare).mp ok
          exact ⟨.intro isSign nonempty digits, range⟩
  · rintro ⟨⟨isSign, nonempty, digits⟩, range⟩
    exact (read isSign nonempty fun _ => not_sign_of_allDigits digits).mpr ⟨digits, rfl, range⟩

end Number

namespace Binary

open Number

/-! ## Floating-point numbers -/

/-- At least one digit, and at most one point before, between or after the digits. -/
inductive IsMantissa : List Char → Prop
  | whole {digits : List Char} : digits ≠ [] → AllDigits digits → IsMantissa digits
  | pointed {whole fraction : List Char} : whole ++ fraction ≠ [] → AllDigits whole →
    AllDigits fraction → IsMantissa (whole ++ '.' :: fraction)

/-- An exponent of ten after its mark, or none. -/
inductive IsExponent : List Char → Prop
  | none : IsExponent []
  | power {mark : Char} {sign digits : List Char} {negative : Bool} : mark = 'e' ∨ mark = 'E' →
    IsSign sign negative → digits ≠ [] → AllDigits digits →
    IsExponent (mark :: (sign ++ digits))

/-- The names of the numbers without digits, in small letters. -/
def specialNames : List String := ["inf", "infinity", "nan"]

theorem mem_specialNames_iff {word : List Char} :
    word ∈ specialNames.map String.toList ↔
      (word = "inf".toList ∨ word = "infinity".toList) ∨ word = "nan".toList := by
  rw [specialNames, List.map_cons, List.map_cons, List.map_singleton, List.mem_cons, List.mem_cons,
    List.mem_singleton, or_assoc]

/-- The text of a floating-point number. -/
inductive IsText : List Char → Prop
  | special {sign word : List Char} {negative : Bool} : IsSign sign negative →
    word.map Char.toLower ∈ specialNames.map String.toList → IsText (sign ++ word)
  | number {sign mantissa exponent : List Char} {negative : Bool} : IsSign sign negative →
    IsMantissa mantissa → IsExponent exponent → IsText (sign ++ (mantissa ++ exponent))

theorem splitSign_sign_append {sign rest : List Char} {negative : Bool}
    (isSign : IsSign sign negative)
    (bare : sign = [] → ∀ c ∈ rest.head?, c ≠ '-' ∧ c ≠ '+') :
    splitSign (sign ++ rest) = (negative, rest) := by
  cases isSign with
  | plus => rfl
  | minus => rfl
  | none =>
      cases rest with
      | nil => rfl
      | cons c rest =>
          obtain ⟨notMinus, notPlus⟩ := bare rfl c rfl
          rw [List.nil_append, splitSign.eq_def]
          split <;> simp_all

/-- The exponent after its mark is an optional sign and digits. -/
theorem isSome_exponent?_iff {cs : List Char} :
    (exponent? cs).isSome = true ↔
      ∃ sign digits negative, IsSign sign negative ∧ cs = sign ++ digits ∧ digits ≠ [] ∧
        AllDigits digits := by
  have read : ∀ {sign rest : List Char} {negative : Bool}, IsSign sign negative →
      (sign = [] → ∀ c ∈ rest.head?, c ≠ '-' ∧ c ≠ '+') →
      ((exponent? (sign ++ rest)).isSome = true ↔ rest ≠ [] ∧ AllDigits rest) := by
    intro sign rest negative isSign bare
    rw [exponent?, splitSign_sign_append isSign bare]
    simp [AllDigits]
  constructor
  · intro some
    obtain ⟨sign, rest, negative, isSign, rfl, bare⟩ := exists_isSign cs
    exact ⟨sign, rest, negative, isSign, rfl, (read isSign bare).mp some⟩
  · rintro ⟨sign, digits, negative, isSign, rfl, nonempty, all⟩
    exact (read isSign fun _ => not_sign_of_allDigits all).mpr ⟨nonempty, all⟩

/-- The exponent of what is left behind the digits. -/
def exponentOf? : List Char → Option Int
  | [] => some 0
  | c :: rest => if c = 'e' ∨ c = 'E' then exponent? rest else none

theorem isSome_exponentOf?_iff {cs : List Char} :
    (exponentOf? cs).isSome = true ↔ IsExponent cs := by
  constructor
  · intro some
    cases cs with
    | nil => exact .none
    | cons c rest =>
        rw [exponentOf?] at some
        split at some
        next mark =>
          obtain ⟨sign, digits, negative, isSign, rfl, nonempty, all⟩ :=
            isSome_exponent?_iff.mp some
          exact .power mark isSign nonempty all
        next => cases some
  · rintro (_ | ⟨mark, isSign, nonempty, all⟩)
    · rfl
    · rw [exponentOf?, if_pos mark]
      exact isSome_exponent?_iff.mpr ⟨_, _, _, isSign, rfl, nonempty, all⟩

/-- A text that does not go on with digits. -/
def StopsDigits (cs : List Char) : Prop := ∀ c ∈ cs.head?, c.isDigit = false

theorem takeWhile_digits_append {digits rest : List Char} (all : AllDigits digits)
    (stops : StopsDigits rest) : (digits ++ rest).takeWhile Char.isDigit = digits := by
  rw [List.takeWhile_append_of_pos all]
  cases rest with
  | nil => rw [List.takeWhile_nil, List.append_nil]
  | cons c rest =>
      rw [List.takeWhile_cons_of_neg (Bool.not_eq_true _ ▸ stops c rfl), List.append_nil]

theorem dropWhile_digits_append {digits rest : List Char} (all : AllDigits digits)
    (stops : StopsDigits rest) : (digits ++ rest).dropWhile Char.isDigit = rest := by
  rw [List.dropWhile_append_of_pos all]
  cases rest with
  | nil => rfl
  | cons c rest => exact List.dropWhile_cons_of_neg (Bool.not_eq_true _ ▸ stops c rfl)

/-- Every text is digits and a rest that does not go on with digits. -/
theorem exists_digits_append (cs : List Char) :
    ∃ digits rest, cs = digits ++ rest ∧ AllDigits digits ∧ StopsDigits rest :=
  ⟨cs.takeWhile Char.isDigit, cs.dropWhile Char.isDigit, List.takeWhile_append_dropWhile.symm,
    List.all_eq_true.mp List.all_takeWhile, stops_dropWhile Char.isDigit cs⟩

/-- What is read of digits, a point, digits and what follows them. -/
theorem unsigned?_pointed {f : BinaryFormat} {whole fraction rest : List Char} (negative : Bool)
    (allWhole : AllDigits whole) (allFraction : AllDigits fraction) (stops : StopsDigits rest) :
    (unsigned? negative (whole ++ '.' :: (fraction ++ rest)) : Option (Binary f)) =
      if whole = [] ∧ fraction = [] then none
      else (exponentOf? rest).map fun e =>
        ofScientific negative (digitsValue (whole ++ fraction)) (e - fraction.length) := by
  have point : StopsDigits ('.' :: (fraction ++ rest)) := by
    rintro _ ⟨⟩
    rfl
  rw [unsigned?, takeWhile_digits_append allWhole point, dropWhile_digits_append allWhole point]
  simp only [takeWhile_digits_append allFraction stops, dropWhile_digits_append allFraction stops]
  cases rest <;> rfl

/-- What is read of digits and what follows them, if this is no point. -/
theorem unsigned?_whole {f : BinaryFormat} {whole rest : List Char} (negative : Bool)
    (all : AllDigits whole) (stops : StopsDigits rest) (pointless : '.' ∉ rest.head?) :
    (unsigned? negative (whole ++ rest) : Option (Binary f)) =
      if whole = [] then none
      else (exponentOf? rest).map fun e => ofScientific negative (digitsValue whole) e := by
  rw [unsigned?, takeWhile_digits_append all stops, dropWhile_digits_append all stops]
  split
  next fraction following split =>
    split at split
    next => exact absurd rfl pointless
    next =>
      obtain ⟨rfl, rfl⟩ := Prod.mk.inj split
      simp only [and_true, List.append_nil, List.length_nil, Int.natCast_zero, Int.sub_zero]
      cases rest <;> rfl

theorem IsExponent.stopsDigits {cs : List Char} (isExponent : IsExponent cs) :
    StopsDigits cs ∧ '.' ∉ cs.head? := by
  cases isExponent with
  | none => exact ⟨nofun, nofun⟩
  | power mark =>
      refine ⟨?_, ?_⟩
      · rintro _ ⟨⟩
        rcases mark with rfl | rfl <;> rfl
      · rintro ⟨⟩
        rcases mark with mark | mark <;> cases mark

/-- Without a sign, the texts with digits are read, and no others. -/
theorem isSome_unsigned?_iff {f : BinaryFormat} (negative : Bool) {cs : List Char} :
    (unsigned? negative cs : Option (Binary f)).isSome = true ↔
      ∃ mantissa exponent, cs = mantissa ++ exponent ∧ IsMantissa mantissa ∧
        IsExponent exponent := by
  constructor
  · intro some
    obtain ⟨whole, behind, rfl, allWhole, stops⟩ := exists_digits_append cs
    by_cases point : '.' ∈ behind.head?
    · obtain ⟨afterPoint, rfl⟩ := List.head?_eq_some_iff.mp point
      obtain ⟨fraction, rest, rfl, allFraction, stops⟩ := exists_digits_append afterPoint
      rw [unsigned?_pointed negative allWhole allFraction stops] at some
      split at some
      next => cases some
      next nonempty =>
        rw [Option.isSome_map, isSome_exponentOf?_iff] at some
        refine ⟨whole ++ '.' :: fraction, rest, by simp, .pointed ?_ allWhole allFraction, some⟩
        exact fun empty => nonempty (List.append_eq_nil_iff.mp empty)
    · rw [unsigned?_whole negative allWhole stops point] at some
      split at some
      next => cases some
      next nonempty =>
        rw [Option.isSome_map, isSome_exponentOf?_iff] at some
        exact ⟨whole, behind, rfl, .whole nonempty allWhole, some⟩
  · rintro ⟨_, exponent, rfl, isMantissa, isExponent⟩
    obtain ⟨stops, pointless⟩ := isExponent.stopsDigits
    cases isMantissa with
    | whole nonempty all =>
        rw [unsigned?_whole negative all stops pointless, if_neg nonempty, Option.isSome_map]
        exact isSome_exponentOf?_iff.mpr isExponent
    | @pointed whole fraction nonempty allWhole allFraction =>
        have digits : ¬(whole = [] ∧ fraction = []) := fun empty =>
          nonempty (List.append_eq_nil_iff.mpr empty)
        rw [List.append_assoc, List.cons_append,
          unsigned?_pointed negative allWhole allFraction stops, if_neg digits, Option.isSome_map]
        exact isSome_exponentOf?_iff.mpr isExponent

/-- Digits, with or without a point, begin with no sign. -/
theorem IsMantissa.not_sign {mantissa : List Char} (isMantissa : IsMantissa mantissa)
    (exponent : List Char) : ∀ c ∈ (mantissa ++ exponent).head?, c ≠ '-' ∧ c ≠ '+' := by
  have digits : ∀ {whole rest : List Char}, AllDigits whole →
      (∀ c ∈ rest.head?, c ≠ '-' ∧ c ≠ '+') →
      ∀ c ∈ (whole ++ rest).head?, c ≠ '-' ∧ c ≠ '+' := by
    intro whole rest all behind
    cases whole with
    | nil => exact behind
    | cons d whole =>
        have first : ∀ c ∈ (d :: whole).head?, c ≠ '-' ∧ c ≠ '+' := not_sign_of_allDigits all
        exact first
  have point : ∀ rest : List Char, ∀ c ∈ ('.' :: rest).head?, c ≠ '-' ∧ c ≠ '+' := by
    rintro rest _ ⟨⟩
    decide
  cases isMantissa with
  | whole nonempty all =>
      obtain ⟨d, digits, rfl⟩ := List.exists_cons_of_ne_nil nonempty
      have first : ∀ c ∈ (d :: digits).head?, c ≠ '-' ∧ c ≠ '+' := not_sign_of_allDigits all
      exact first
  | pointed nonempty allWhole allFraction =>
      rw [List.append_assoc]
      exact digits allWhole (point _)

/-- The names of the numbers without digits begin with no sign. -/
theorem not_sign_of_special {word : List Char}
    (special : word.map Char.toLower ∈ specialNames.map String.toList) :
    ∀ c ∈ word.head?, c ≠ '-' ∧ c ≠ '+' := by
  intro c first
  have small : c.toLower ∈ (word.map Char.toLower).head? := by
    rw [List.head?_map, Option.mem_def.mp first]
    rfl
  have letter : c.toLower = 'i' ∨ c.toLower = 'n' := by
    rcases mem_specialNames_iff.mp special with (name | name) | name <;> rw [name] at small
    · exact .inl (Option.some.inj small).symm
    · exact .inl (Option.some.inj small).symm
    · exact .inr (Option.some.inj small).symm
  constructor <;> (rintro rfl; rcases letter with wrong | wrong <;> cases wrong)

/-- The floating-point numbers of any format are read from their texts and from no others. -/
theorem isSome_ofChars?_iff {f : BinaryFormat} {cs : List Char} :
    (ofChars? cs : Option (Binary f)).isSome = true ↔ IsText cs := by
  have read : ∀ {sign rest : List Char} {negative : Bool}, IsSign sign negative →
      (sign = [] → ∀ c ∈ rest.head?, c ≠ '-' ∧ c ≠ '+') →
      ((ofChars? (sign ++ rest) : Option (Binary f)).isSome = true ↔
        rest.map Char.toLower ∈ specialNames.map String.toList ∨
          ∃ mantissa exponent, rest = mantissa ++ exponent ∧ IsMantissa mantissa ∧
            IsExponent exponent) := by
    intro sign rest negative isSign bare
    rw [mem_specialNames_iff, ← isSome_unsigned?_iff (f := f) negative, ofChars?,
      splitSign_sign_append isSign bare]
    dsimp only
    split
    next infinite => exact iff_of_true rfl (.inl (.inl infinite))
    next finite =>
      split
      next nan => exact iff_of_true rfl (.inl (.inr nan))
      next number => rw [or_iff_right (not_or.mpr ⟨finite, number⟩)]
  constructor
  · intro some
    obtain ⟨sign, rest, negative, isSign, rfl, bare⟩ := exists_isSign cs
    rcases (read isSign bare).mp some with special | ⟨_, _, rfl, isMantissa, isExponent⟩
    · exact .special isSign special
    · exact .number isSign isMantissa isExponent
  · rintro (⟨isSign, special⟩ | ⟨isSign, isMantissa, isExponent⟩)
    · exact (read isSign fun _ => not_sign_of_special special).mpr (.inl special)
    · exact (read isSign fun _ => isMantissa.not_sign _).mpr
        (.inr ⟨_, _, rfl, isMantissa, isExponent⟩)

end Binary
end QueryRegression
