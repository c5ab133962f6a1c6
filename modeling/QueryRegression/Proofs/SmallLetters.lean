import QueryRegression.Text.LowerCase

/-!
# Small letters

What lower-casing makes of a text, one character at a time.

* `Text.lowerBeyondAscii_cases`: a letter beyond ASCII is moved by the shift of the run it stands
  in, or is small already.
* `Text.lowercaseFrom_cons`: every character becomes at least one, ASCII letters become one ASCII
  letter each, and nothing else becomes an ASCII letter but the dotted capital I and the Kelvin
  sign, of which the letters `i` and `k` are made.
-/

namespace QueryRegression.Text

/-- A code point of no character reads as the null character. -/
theorem ofNat_eq_null_or (n : Nat) : Char.ofNat n = '\x00' ∨ (Char.ofNat n).toNat = n := by
  by_cases valid : n.isValidChar
  · have point : Char.ofNat n = Char.ofNatAux n valid := dif_pos valid
    exact .inr (point ▸ rfl)
  · exact .inl (dif_neg valid)

/-- A letter beyond ASCII is moved by the shift of the run it stands in, if any. -/
theorem lowerBeyondAscii_cases (n : Nat) (runs : List CaseRun) :
    lowerBeyondAscii n runs = n ∨
      ∃ run ∈ runs, run.first ≤ n ∧ n ≤ run.last ∧
        lowerBeyondAscii n runs = ((n : Int) + run.shift).toNat := by
  induction runs with
  | nil => exact .inl rfl
  | cons run rest ih =>
      unfold lowerBeyondAscii
      split
      next => exact .inl rfl
      next reached =>
        split
        next within =>
          split
          next => exact .inr ⟨run, List.mem_cons_self, Nat.not_lt.mp reached, within, rfl⟩
          next => exact .inl rfl
        next =>
          rcases ih with same | ⟨later, member, first, last, moved⟩
          · exact .inl same
          · exact .inr ⟨later, List.mem_cons_of_mem run member, first, last, moved⟩

theorem lowerChar_ne_nil (c : Char) : lowerChar c ≠ [] := by
  unfold lowerChar
  split
  · nofun
  · split <;> nofun

/-! ## ASCII letters among the small letters -/

/-- Only the Kelvin sign becomes a letter of ASCII by a shift. -/
theorem lowerBeyondAscii_ascii {n : Nat} (beyond : 128 ≤ n) :
    128 ≤ lowerBeyondAscii n lowerRuns ∨ lowerBeyondAscii n lowerRuns = 'k'.toNat := by
  have runs : ∀ run ∈ lowerRuns, 128 ≤ (run.first : Int) + run.shift ∨
      run.first = run.last ∧ (run.first : Int) + run.shift = 'k'.toNat := by decide +kernel
  rcases lowerBeyondAscii_cases n lowerRuns with same | ⟨run, member, first, last, moved⟩
  · rw [same]
    exact .inl beyond
  · rw [moved]
    rcases runs run member with high | ⟨single, kelvin⟩
    · exact .inl (by omega)
    · have there : (n : Int) = run.first := by omega
      exact .inr (by rw [there, kelvin]; rfl)

/-- What a character beyond ASCII becomes holds no ASCII letter but `i` and `k`. -/
theorem not_ascii_of_mem_lowerChar {c d : Char} (beyond : 128 ≤ c.toNat)
    (member : d ∈ lowerChar c) : 128 ≤ d.toNat ∨ d = 'i' ∨ d = 'k' ∨ d = '\x00' := by
  rw [lowerChar, if_neg (Nat.not_lt.mpr beyond)] at member
  split at member
  next =>
    rcases List.mem_cons.mp member with rfl | dot
    · exact .inr (.inl rfl)
    · rw [List.mem_singleton.mp dot]
      exact .inl (by decide)
  next =>
    rw [List.mem_singleton.mp member]
    rcases ofNat_eq_null_or (lowerBeyondAscii c.toNat lowerRuns) with null | code
    · exact .inr (.inr (.inr null))
    · rcases lowerBeyondAscii_ascii beyond with high | kelvin
      · rw [code]
        exact .inl high
      · refine .inr (.inr (.inl (Char.toNat_inj.mp ?_)))
        rw [code, kelvin]

/-- The first character of a text in small letters: one ASCII letter, or characters of which none is
an ASCII letter but `i` and `k`. -/
theorem lowercaseFrom_cons (casedBehind : Bool) (c : Char) (rest : List Char) :
    ∃ small casedBehind', small ≠ [] ∧
      lowercaseFrom casedBehind (c :: rest) = small ++ lowercaseFrom casedBehind' rest ∧
      (c.toNat < 128 ∧ small = [c.toLower] ∨
        128 ≤ c.toNat ∧ ∀ d ∈ small, 128 ≤ d.toNat ∨ d = 'i' ∨ d = 'k' ∨ d = '\x00') := by
  rw [lowercaseFrom]
  by_cases sigma : c.toNat = 0x3A3
  · simp only [if_pos sigma]
    refine ⟨_, _, List.cons_ne_nil _ _, rfl, .inr ⟨by omega, fun d member => ?_⟩⟩
    rw [List.mem_singleton.mp member]
    split <;> exact .inl (by decide)
  · simp only [if_neg sigma]
    refine ⟨_, _, lowerChar_ne_nil c, rfl, ?_⟩
    by_cases ascii : c.toNat < 128
    · exact .inl ⟨ascii, if_pos ascii⟩
    · have beyond := Nat.not_lt.mp ascii
      exact .inr ⟨beyond, fun _ => not_ascii_of_mem_lowerChar beyond⟩

end QueryRegression.Text
