import QueryRegression.Number.Power
import QueryRegression.Text.Base64
import Mathlib.Data.List.Nodup
import Mathlib.Tactic.Ring

/-!
# Base64 as digits of bits

`Base64.encodeChars` goes through the bytes in groups of three. What it writes is described here
without groups: the bits of the bytes, filled up with zeros to whole sextets, are the bits of the
sextets that the characters stand for.

* `Base64.IsEncoding`: that description, with the alphabet written out and the filling at the end.
* `Base64.isEncoding_iff`: every sequence of bytes has one encoding, the one that is written.
* `Base64.IsEncoding.bytes_eq`: no two sequences of bytes have the same encoding.
-/

namespace QueryRegression.Text.Base64

/-! ## Bits -/

/-- The last `width` bits of a number, the highest of them first. -/
def bits : Nat → Nat → List Bool
  | 0, _ => []
  | width + 1, n => bits width (n / 2) ++ [n % 2 == 1]

@[simp] theorem length_bits (width n : Nat) : (bits width n).length = width := by
  induction width generalizing n with
  | zero => rfl
  | succ width ih => rw [bits, List.length_append, ih, List.length_singleton]

/-- A number is put together from its higher and its lower bits. -/
theorem bits_append (high x low y : Nat) (small : y < 2 ^ low) :
    bits high x ++ bits low y = bits (high + low) (x * 2 ^ low + y) := by
  induction low generalizing y with
  | zero =>
      have zero : y = 0 := by omega
      rw [zero, bits, List.append_nil, Nat.add_zero, Nat.pow_zero, Nat.mul_one, Nat.add_zero]
  | succ low ih =>
      have double : x * 2 ^ (low + 1) = 2 * (x * 2 ^ low) := by ring
      have half : (x * 2 ^ (low + 1) + y) / 2 = x * 2 ^ low + y / 2 := by omega
      have last : (x * 2 ^ (low + 1) + y) % 2 = y % 2 := by omega
      have smaller : y / 2 < 2 ^ low := by
        rw [Nat.pow_succ] at small
        omega
      rw [bits, ← List.append_assoc, ih (y / 2) smaller, ← Nat.add_assoc, bits, half, last]

theorem bits_injective (width : Nat) {m n : Nat} (mSmall : m < 2 ^ width) (nSmall : n < 2 ^ width)
    (equal : bits width m = bits width n) : m = n := by
  induction width generalizing m n with
  | zero => omega
  | succ width ih =>
      rw [Nat.pow_succ] at mSmall nSmall
      obtain ⟨higher, last⟩ := List.append_inj' equal rfl
      have halves : m / 2 = n / 2 := ih (by omega) (by omega) higher
      have parity : m % 2 = 1 ↔ n % 2 = 1 := by simpa using List.singleton_inj.mp last
      omega

/-! ## Blocks of one length -/

section Blocks

variable {α β : Type} {width : Nat} {block : α → List β}

theorem length_blocks (lengths : ∀ a, (block a).length = width) (xs : List α) :
    (xs.flatMap block).length = width * xs.length := by
  induction xs with
  | nil => rfl
  | cons x xs ih =>
      rw [List.flatMap_cons, List.length_append, lengths, ih, List.length_cons, Nat.mul_succ,
        Nat.add_comm]

/-- What is written in blocks of one length can be told from the blocks in a row. -/
theorem blocks_injective (positive : 0 < width) (lengths : ∀ a, (block a).length = width)
    (injective : ∀ a b, block a = block b → a = b) {xs ys : List α}
    (equal : xs.flatMap block = ys.flatMap block) : xs = ys := by
  have count : xs.length = ys.length := by
    have whole := congrArg List.length equal
    rw [length_blocks lengths, length_blocks lengths] at whole
    exact Nat.eq_of_mul_eq_mul_left positive whole
  induction xs generalizing ys with
  | nil => exact (List.length_eq_zero_iff.mp count.symm).symm
  | cons x xs ih =>
      obtain ⟨y, ys, rfl⟩ := List.exists_cons_of_length_eq_add_one count.symm
      obtain ⟨first, rest⟩ := List.append_inj equal ((lengths x).trans (lengths y).symm)
      rw [injective x y first, ih rest (Nat.succ.inj count)]

end Blocks

/-! ## The description -/

/-- The characters that stand for the sextets from 0 to 63. -/
def alphabet : List Char :=
  "ABCDEFGHIJKLMNOPQRSTUVWXYZabcdefghijklmnopqrstuvwxyz0123456789+/".toList

/-- A character of the alphabet, by its place. -/
abbrev Sextet : Type := Fin alphabet.length

/-- The bits of bytes. -/
def byteBits (bytes : List UInt8) : List Bool := bytes.flatMap fun b => bits 8 b.toNat

/-- The bits of sextets. -/
def sextetBits (sextets : List Sextet) : List Bool := sextets.flatMap fun s => bits 6 s.val

theorem byteBits_cons (b : UInt8) (bytes : List UInt8) :
    byteBits (b :: bytes) = bits 8 b.toNat ++ byteBits bytes := rfl

theorem sextetBits_cons (s : Sextet) (sextets : List Sextet) :
    sextetBits (s :: sextets) = bits 6 s.val ++ sextetBits sextets := rfl

/-- The characters encode the bytes. -/
def IsEncoding (bytes : List UInt8) (text : List Char) : Prop :=
  ∃ (sextets : List Sextet) (zeros filling : Nat),
    zeros < 6 ∧ sextetBits sextets = byteBits bytes ++ List.replicate zeros false ∧
    filling < 4 ∧ 4 ∣ text.length ∧
    text = sextets.map alphabet.get ++ List.replicate filling '='

theorem length_byteBits (bytes : List UInt8) : (byteBits bytes).length = 8 * bytes.length := by
  have lengths : ∀ b : UInt8, (bits 8 b.toNat).length = 8 := fun b => length_bits 8 b.toNat
  exact length_blocks lengths bytes

theorem length_sextetBits (sextets : List Sextet) :
    (sextetBits sextets).length = 6 * sextets.length := by
  have lengths : ∀ s : Sextet, (bits 6 s.val).length = 6 := fun s => length_bits 6 s.val
  exact length_blocks lengths sextets

theorem byteBits_injective {bytes bytes' : List UInt8} (equal : byteBits bytes = byteBits bytes') :
    bytes = bytes' := by
  have lengths : ∀ b : UInt8, (bits 8 b.toNat).length = 8 := fun b => length_bits 8 b.toNat
  have injective : ∀ a b : UInt8, bits 8 a.toNat = bits 8 b.toNat → a = b := fun a b bitsEqual =>
    UInt8.toNat_inj.mp (bits_injective 8 a.toNat_lt b.toNat_lt bitsEqual)
  exact blocks_injective (by decide) lengths injective equal

theorem sextetBits_injective {sextets sextets' : List Sextet}
    (equal : sextetBits sextets = sextetBits sextets') : sextets = sextets' := by
  have lengths : ∀ s : Sextet, (bits 6 s.val).length = 6 := fun s => length_bits 6 s.val
  have injective : ∀ a b : Sextet, bits 6 a.val = bits 6 b.val → a = b := fun a b bitsEqual =>
    Fin.ext (bits_injective 6 a.isLt b.isLt bitsEqual)
  exact blocks_injective (by decide) lengths injective equal

/-! ## One encoding for each sequence of bytes -/

theorem get_alphabet_ne (s : Sextet) : alphabet.get s ≠ '=' := by
  have absent : '=' ∉ alphabet := by decide
  intro equal
  exact absent (equal ▸ List.get_mem alphabet s)

/-- The sextets end where the filling begins. -/
theorem sextets_eq_of_text_eq {sextets sextets' : List Sextet} {filling filling' : Nat}
    (equal : sextets.map alphabet.get ++ List.replicate filling '=' =
      sextets'.map alphabet.get ++ List.replicate filling' '=') : sextets = sextets' := by
  have front : ∀ (sextets : List Sextet) (filling : Nat),
      (sextets.map alphabet.get ++ List.replicate filling '=').takeWhile (· != '=') =
        sextets.map alphabet.get := by
    intro sextets filling
    rw [List.takeWhile_append_of_pos, List.takeWhile_replicate_eq_filter]
    · simp
    · intro c member
      obtain ⟨s, -, rfl⟩ := List.mem_map.mp member
      exact bne_iff_ne.mpr (get_alphabet_ne s)
  have distinct : alphabet.Nodup := by decide
  have characters := congrArg (List.takeWhile (· != '=')) equal
  rw [front, front] at characters
  exact List.map_injective_iff.mpr (List.nodup_iff_injective_get.mp distinct) characters

/-- No two sequences of bytes have the same encoding. -/
theorem IsEncoding.bytes_eq {bytes bytes' : List UInt8} {text : List Char}
    (encoding : IsEncoding bytes text) (encoding' : IsEncoding bytes' text) : bytes = bytes' := by
  obtain ⟨sextets, zeros, filling, few, whole, -, -, shown⟩ := encoding
  obtain ⟨sextets', zeros', filling', few', whole', -, -, shown'⟩ := encoding'
  have same : sextets = sextets' := sextets_eq_of_text_eq (shown.symm.trans shown')
  have filled : byteBits bytes ++ List.replicate zeros false =
      byteBits bytes' ++ List.replicate zeros' false := by
    rw [← whole, ← whole', same]
  have lengths := congrArg List.length filled
  simp only [List.length_append, length_byteBits, List.length_replicate] at lengths
  have count : (byteBits bytes).length = (byteBits bytes').length := by
    rw [length_byteBits, length_byteBits]
    omega
  exact byteBits_injective (List.append_inj filled count).1

/-- No sequence of bytes has two encodings. -/
theorem IsEncoding.text_eq {bytes : List UInt8} {text text' : List Char}
    (encoding : IsEncoding bytes text) (encoding' : IsEncoding bytes text') : text = text' := by
  obtain ⟨sextets, zeros, filling, few, whole, short, fours, shown⟩ := encoding
  obtain ⟨sextets', zeros', filling', few', whole', short', fours', shown'⟩ := encoding'
  have lengths := congrArg List.length whole
  have lengths' := congrArg List.length whole'
  simp only [length_sextetBits, List.length_append, length_byteBits, List.length_replicate]
    at lengths lengths'
  have zerosEqual : zeros = zeros' := by omega
  have same : sextets = sextets' := by
    apply sextetBits_injective
    rw [whole, whole', zerosEqual]
  rw [shown, List.length_append, List.length_map, List.length_replicate] at fours
  rw [shown', List.length_append, List.length_map, List.length_replicate, ← same] at fours'
  have fillingEqual : filling = filling' := by omega
  rw [shown, shown', same, fillingEqual]

/-! ## What is written is the encoding -/

/-- The lower bits of a byte that has been begun stand in front of the higher bits of what comes
next. -/
theorem bits_carry (high low rest n y : Nat) (small : y < 2 ^ rest) (tail : List Bool) :
    bits high (n / 2 ^ low) ++ (bits (low + rest) (n % 2 ^ low * 2 ^ rest + y) ++ tail) =
      bits (high + low) n ++ (bits rest y ++ tail) := by
  have remainder : n % 2 ^ low < 2 ^ low := Nat.mod_lt _ (Nat.two_pow_pos low)
  rw [← bits_append low _ rest y small, List.append_assoc, ← List.append_assoc,
    bits_append high _ low _ remainder, Nat.div_add_mod']

theorem bits_of_one (a : Nat) :
    bits 6 (a / 4) ++ (bits 6 (a % 4 * 16) ++ []) = bits 8 a ++ List.replicate 4 false :=
  bits_carry 6 2 4 a 0 (by decide) []

theorem bits_of_two (a : Nat) {b : Nat} (bSmall : b < 256) :
    bits 6 (a / 4) ++ (bits 6 (a % 4 * 16 + b / 16) ++ (bits 6 (b % 16 * 4) ++ [])) =
      bits 8 a ++ (bits 8 b ++ List.replicate 2 false) := by
  have first := bits_carry 6 2 4 a (b / 16) (by omega) (bits 6 (b % 16 * 4) ++ [])
  have second := bits_carry 4 4 2 b 0 (by decide) []
  exact first.trans (congrArg (bits 8 a ++ ·) second)

theorem bits_of_three (a : Nat) {b c : Nat} (bSmall : b < 256) (cSmall : c < 256)
    (tail : List Bool) :
    bits 6 (a / 4) ++ (bits 6 (a % 4 * 16 + b / 16) ++ (bits 6 (b % 16 * 4 + c / 64) ++
        (bits 6 (c % 64) ++ tail))) =
      bits 8 a ++ (bits 8 b ++ (bits 8 c ++ tail)) := by
  have first := bits_carry 6 2 4 a (b / 16) (by omega)
    (bits 6 (b % 16 * 4 + c / 64) ++ (bits 6 (c % 64) ++ tail))
  have second := bits_carry 4 4 2 b (c / 64) (by omega) (bits 6 (c % 64) ++ tail)
  have third : bits 2 (c / 64) ++ (bits 6 (c % 64) ++ tail) = bits 8 c ++ tail := by
    have whole := bits_append 2 (c / 64) 6 (c % 64) (by omega)
    have value : c / 64 * 2 ^ 6 + c % 64 = c := by omega
    rw [← List.append_assoc, whole, value]
  rw [third] at second
  exact first.trans (congrArg (bits 8 a ++ ·) second)

/-- The character of a number below 64 is the one at its place in the alphabet. -/
theorem exists_sextet (n : Nat) (small : n < 64) :
    ∃ s : Sextet, s.val = n ∧ digit n = alphabet.get s := by
  have all : ∀ s : Sextet, digit s = alphabet.get s := by decide
  exact ⟨⟨n, small⟩, rfl, all ⟨n, small⟩⟩

/-- What is written is an encoding, by induction on the groups of three bytes. -/
theorem isEncoding_encodeChars (bytes : List UInt8) : IsEncoding bytes (encodeChars bytes) := by
  fun_induction encodeChars bytes with
  | case1 => exact ⟨[], 0, 0, by decide, rfl, by decide, by decide, rfl⟩
  | case2 a =>
      have aSmall := a.toNat_lt
      obtain ⟨s, sValue, sDigit⟩ := exists_sextet (a.toNat / 4) (by omega)
      obtain ⟨t, tValue, tDigit⟩ := exists_sextet (a.toNat % 4 * 16) (by omega)
      refine ⟨[s, t], 4, 2, by decide, ?_, by decide, ⟨1, rfl⟩, ?_⟩
      · rw [sextetBits_cons, sextetBits_cons, sValue, tValue]
        exact bits_of_one a.toNat
      · rw [sDigit, tDigit]
        rfl
  | case3 a b =>
      have aSmall := a.toNat_lt
      have bSmall := b.toNat_lt
      obtain ⟨s, sValue, sDigit⟩ := exists_sextet (a.toNat / 4) (by omega)
      obtain ⟨t, tValue, tDigit⟩ :=
        exists_sextet (a.toNat % 4 * 16 + b.toNat / 16) (by omega)
      obtain ⟨u, uValue, uDigit⟩ := exists_sextet (b.toNat % 16 * 4) (by omega)
      refine ⟨[s, t, u], 2, 1, by decide, ?_, by decide, ⟨1, rfl⟩, ?_⟩
      · rw [sextetBits_cons, sextetBits_cons, sextetBits_cons, sValue, tValue, uValue,
          byteBits_cons, List.append_assoc]
        exact bits_of_two a.toNat bSmall
      · rw [sDigit, tDigit, uDigit]
        rfl
  | case4 a b c rest ih =>
      obtain ⟨sextets, zeros, filling, few, whole, short, fours, shown⟩ := ih
      have aSmall := a.toNat_lt
      have bSmall := b.toNat_lt
      have cSmall := c.toNat_lt
      obtain ⟨s, sValue, sDigit⟩ := exists_sextet (a.toNat / 4) (by omega)
      obtain ⟨t, tValue, tDigit⟩ :=
        exists_sextet (a.toNat % 4 * 16 + b.toNat / 16) (by omega)
      obtain ⟨u, uValue, uDigit⟩ :=
        exists_sextet (b.toNat % 16 * 4 + c.toNat / 64) (by omega)
      obtain ⟨v, vValue, vDigit⟩ := exists_sextet (c.toNat % 64) (by omega)
      refine ⟨s :: t :: u :: v :: sextets, zeros, filling, few, ?_, short, ?_, ?_⟩
      · simp only [sextetBits_cons, byteBits_cons, List.append_assoc, sValue, tValue, uValue,
          vValue, whole]
        exact bits_of_three a.toNat bSmall cSmall _
      · simp only [List.length_cons]
        omega
      · rw [sDigit, tDigit, uDigit, vDigit, shown]
        rfl

/-- Every sequence of bytes has one encoding, the one that is written. -/
theorem isEncoding_iff {bytes : List UInt8} {text : List Char} :
    IsEncoding bytes text ↔ text = encodeChars bytes := by
  constructor
  · intro encoding
    exact encoding.text_eq (isEncoding_encodeChars bytes)
  · intro written
    rw [written]
    exact isEncoding_encodeChars bytes

theorem encode_injective {bytes bytes' : List UInt8} (equal : encode bytes = encode bytes') :
    bytes = bytes' := by
  have characters : encodeChars bytes = encodeChars bytes' := String.ofList_injective equal
  have encoding := isEncoding_encodeChars bytes
  rw [characters] at encoding
  exact encoding.bytes_eq (isEncoding_encodeChars bytes')

end QueryRegression.Text.Base64
