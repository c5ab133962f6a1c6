import Mathlib.Data.List.TakeWhile
import QueryRegression.Compare.Exception
import QueryRegression.Proofs.SmallLetters

/-!
# Lines of messages

Two descriptions of the lines of a text, and what the tokens of a message have to do with them:

* `lines` cuts a text at every carriage return and every line feed and drops the empty parts. The
  tokens of a message are these (`lineTokens_eq_lines`).
* `HasLines` says that a text is made of lines: breaks stand before, after and between them, and at
  least one between two lines. Every text has exactly one list of lines (`hasLines_iff`).

Everything follows from one equation: cutting commutes with appending at a break
(`lines_append_break`). Lower-casing commutes with appending at a break, too, because breaks neither
have case nor are looked through; so the lines of a text in small letters are its lines in small
letters (`lines_lowercaseFrom`).
-/

namespace QueryRegression.RaisedException

open Text

/-! ## Cutting at breaks -/

/-- The parts of a text that was cut at every break, without the empty ones. -/
def lines (cs : List Char) : List (List Char) := (cs.splitOnP isBreak).filter (!·.isEmpty)

/-- All characters are breaks. -/
def AllBreaks (cs : List Char) : Prop := ∀ c ∈ cs, isBreak c = true

/-- A text that is neither empty nor broken. -/
def IsLine (cs : List Char) : Prop := cs ≠ [] ∧ ∀ c ∈ cs, isBreak c = false

theorem lines_nil : lines [] = [] := by
  rw [lines, List.splitOnP_nil]
  rfl

theorem lines_append_break (xs rest : List Char) {c : Char} (cut : isBreak c = true) :
    lines (xs ++ c :: rest) = lines xs ++ lines rest := by
  rw [lines, List.splitOnP_append_cons xs rest cut, List.filter_append]
  rfl

theorem lines_append_of_allBreaks {before : List Char} (breaks : AllBreaks before)
    (rest : List Char) : lines (before ++ rest) = lines rest := by
  induction before with
  | nil => rfl
  | cons c before ih =>
      obtain ⟨cut, breaks⟩ := List.forall_mem_cons.mp breaks
      have appended := lines_append_break [] (before ++ rest) cut
      rw [List.nil_append, lines_nil, List.nil_append] at appended
      rw [List.cons_append, appended, ih breaks]

theorem lines_of_allBreaks {cs : List Char} (breaks : AllBreaks cs) : lines cs = [] := by
  rw [← List.append_nil cs, lines_append_of_allBreaks breaks, lines_nil]

theorem lines_of_isLine {line : List Char} (isLine : IsLine line) : lines line = [line] := by
  rw [lines, List.splitOnP_eq_singleton isLine.2]
  simp [isLine.1]

/-- A line ends where a break follows or nothing. -/
theorem lines_line_append {line rest : List Char} (isLine : IsLine line)
    (ends : ∀ c ∈ rest.head?, isBreak c = true) : lines (line ++ rest) = line :: lines rest := by
  cases rest with
  | nil => rw [List.append_nil, lines_of_isLine isLine, lines_nil]
  | cons c rest =>
      have cut : isBreak c = true := ends c rfl
      have appended := lines_append_break [] rest cut
      rw [lines_append_break line rest cut, lines_of_isLine isLine]
      rw [List.nil_append, lines_nil, List.nil_append] at appended
      rw [appended]
      rfl

/-! ## Texts made of lines -/

/-- A text that is made of the given lines, with breaks between and around them. -/
inductive HasLines : List (List Char) → List Char → Prop
  | none {breaks : List Char} : AllBreaks breaks → HasLines [] breaks
  /-- Behind a line there are a break and more text, or nothing. -/
  | line {before line rest : List Char} {others : List (List Char)} : AllBreaks before →
    IsLine line → (∀ c ∈ rest.head?, isBreak c = true) → HasLines others rest →
    HasLines (line :: others) (before ++ (line ++ rest))

theorem HasLines.lines_eq {ls : List (List Char)} {cs : List Char} (made : HasLines ls cs) :
    lines cs = ls := by
  induction made with
  | none breaks => exact lines_of_allBreaks breaks
  | line breaks isLine ends _ ih =>
      rw [lines_append_of_allBreaks breaks, lines_line_append isLine ends, ih]

theorem allBreaks_takeWhile (cs : List Char) : AllBreaks (cs.takeWhile isBreak) := fun _ member =>
  List.mem_takeWhile_imp member

theorem allBreaks_of_dropWhile_eq_nil {cs : List Char} (dropped : cs.dropWhile isBreak = []) :
    AllBreaks cs := List.dropWhile_eq_nil_iff.mp dropped

/-- The tokens of a text are lines that it is made of. -/
theorem hasLines_lineTokens (cs : List Char) : HasLines (lineTokens cs) cs := by
  fun_induction lineTokens cs with
  | case1 cs dropped => exact .none (allBreaks_of_dropWhile_eq_nil dropped)
  | case2 cs c rest dropped ih =>
      have head : isBreak c = false := by
        have first := List.head?_dropWhile_not isBreak cs
        simpa [dropped] using first
      have isLine : IsLine (c :: rest.takeWhile (!isBreak ·)) := by
        refine ⟨nofun, List.forall_mem_cons.mpr ⟨head, fun d member => ?_⟩⟩
        simpa using List.mem_takeWhile_imp member
      have ends : ∀ d ∈ (rest.dropWhile (!isBreak ·)).head?, isBreak d = true := by
        intro d member
        have first := List.head?_dropWhile_not (!isBreak ·) rest
        rw [member] at first
        simpa using first
      have made := HasLines.line (allBreaks_takeWhile cs) isLine ends ih
      rwa [List.cons_append, List.takeWhile_append_dropWhile, ← dropped,
        List.takeWhile_append_dropWhile] at made

theorem lineTokens_eq_lines (cs : List Char) : lineTokens cs = lines cs :=
  (hasLines_lineTokens cs).lines_eq.symm

/-- Every text is made of its lines and of no others. -/
theorem hasLines_iff {ls : List (List Char)} {cs : List Char} : HasLines ls cs ↔ lines cs = ls := by
  constructor
  · exact HasLines.lines_eq
  · rintro rfl
    rw [← lineTokens_eq_lines]
    exact hasLines_lineTokens cs

/-! ## Small letters -/

theorem eq_of_isBreak {c : Char} (cut : isBreak c = true) : c = '\r' ∨ c = '\n' := by
  simpa [isBreak] using cut

theorem casedAhead_append_break (xs rest : List Char) {c : Char} (cut : isBreak c = true) :
    casedAhead (xs ++ c :: rest) = casedAhead xs := by
  induction xs with
  | nil => rcases eq_of_isBreak cut with rfl | rfl <;> rfl
  | cons x xs ih =>
      simp only [casedAhead, List.cons_append, List.dropWhile_cons] at ih ⊢
      split
      · exact ih
      · rfl

/-- A break stays what it is in small letters, and what is before it does not count behind it. -/
theorem lowercaseFrom_append_break (casedBehind : Bool) (xs rest : List Char) {c : Char}
    (cut : isBreak c = true) :
    lowercaseFrom casedBehind (xs ++ c :: rest) =
      lowercaseFrom casedBehind xs ++ c :: lowercaseFrom false rest := by
  induction xs generalizing casedBehind with
  | nil => rcases eq_of_isBreak cut with rfl | rfl <;> rfl
  | cons x xs ih =>
      rw [List.cons_append, lowercaseFrom, lowercaseFrom, casedAhead_append_break xs rest cut, ih,
        List.append_assoc]

theorem lowercaseFrom_breaks_append {before : List Char} (breaks : AllBreaks before)
    (rest : List Char) :
    lowercaseFrom false (before ++ rest) = before ++ lowercaseFrom false rest := by
  induction before with
  | nil => rfl
  | cons c before ih =>
      obtain ⟨cut, breaks⟩ := List.forall_mem_cons.mp breaks
      have kept := lowercaseFrom_append_break false [] (before ++ rest) cut
      rw [lowercaseFrom, List.nil_append, List.nil_append, ih breaks] at kept
      exact kept

/-- Small letters are no breaks: none lies before the first printable characters. -/
theorem le_lowerBeyondAscii {n : Nat} (beyond : 128 ≤ n) :
    14 ≤ lowerBeyondAscii n lowerRuns := by
  rcases lowerBeyondAscii_ascii beyond with high | kelvin
  · exact Nat.le_trans (by decide) high
  · rw [kelvin]
    decide

theorem isBreak_ofNat {n : Nat} (le : 14 ≤ n) : isBreak (Char.ofNat n) = false := by
  rcases ofNat_eq_null_or n with null | code
  · rw [null]
    rfl
  · have differs : ∀ c : Char, c.toNat < 14 → Char.ofNat n ≠ c := by
      rintro c low rfl
      omega
    have carriageReturn := differs '\r' (by decide)
    have lineFeed := differs '\n' (by decide)
    simp [isBreak, carriageReturn, lineFeed]

theorem isBreak_toLower {c : Char} (unbroken : isBreak c = false) : isBreak c.toLower = false := by
  unfold Char.toLower
  split
  next capital =>
    simp only [isBreak, beq_eq_false_iff_ne, ne_eq, Bool.or_eq_false_iff, Char.ext_iff]
    grind
  next => exact unbroken

theorem isBreak_of_mem_lowerChar {c d : Char} (unbroken : isBreak c = false)
    (member : d ∈ lowerChar c) : isBreak d = false := by
  unfold lowerChar at member
  split at member
  next =>
    rw [List.mem_singleton.mp member]
    exact isBreak_toLower unbroken
  next beyond =>
    split at member
    next =>
      simp only [List.mem_cons, List.not_mem_nil, or_false] at member
      rcases member with rfl | rfl <;> decide
    next =>
      rw [List.mem_singleton.mp member]
      exact isBreak_ofNat (le_lowerBeyondAscii (Nat.not_lt.mp beyond))

theorem isBreak_of_mem_lowercaseFrom {casedBehind : Bool} {cs : List Char}
    (unbroken : ∀ c ∈ cs, isBreak c = false) :
    ∀ d ∈ lowercaseFrom casedBehind cs, isBreak d = false := by
  induction cs generalizing casedBehind with
  | nil => exact nofun
  | cons c cs ih =>
      obtain ⟨head, tail⟩ := List.forall_mem_cons.mp unbroken
      intro d member
      rw [lowercaseFrom, List.mem_append] at member
      rcases member with small | later
      · split at small
        next =>
          rw [List.mem_singleton.mp small]
          split <;> decide
        next => exact isBreak_of_mem_lowerChar head small
      · exact ih tail d later

/-- A line stays a line in small letters. -/
theorem isLine_lowercaseFrom {casedBehind : Bool} {cs : List Char} (isLine : IsLine cs) :
    IsLine (lowercaseFrom casedBehind cs) := by
  refine ⟨?_, isBreak_of_mem_lowercaseFrom isLine.2⟩
  cases cs with
  | nil => exact absurd rfl isLine.1
  | cons c cs =>
      intro empty
      rw [lowercaseFrom, List.append_eq_nil_iff] at empty
      obtain ⟨small, -⟩ := empty
      split at small
      · cases small
      · exact lowerChar_ne_nil c small

/-- The lines of a text in small letters are its lines in small letters. -/
theorem lines_lowercaseFrom (cs : List Char) :
    lines (lowercaseFrom false cs) = (lines cs).map (lowercaseFrom false) := by
  have made := hasLines_iff.mpr (rfl : lines cs = lines cs)
  generalize lines cs = ls at made
  induction made with
  | @none breaks allBreaks =>
      have kept := lowercaseFrom_breaks_append allBreaks []
      rw [List.append_nil, lowercaseFrom, List.append_nil] at kept
      rw [kept, lines_of_allBreaks allBreaks]
      rfl
  | @line before line rest others breaks isLine ends _ ih =>
      have isLine' : IsLine (lowercaseFrom false line) := isLine_lowercaseFrom isLine
      rw [lowercaseFrom_breaks_append breaks, lines_append_of_allBreaks breaks, List.map_cons]
      cases rest with
      | nil =>
          rw [List.append_nil, lines_of_isLine isLine', ← ih, lowercaseFrom, lines_nil]
      | cons c rest =>
          have cut : isBreak c = true := ends c rfl
          have kept := lowercaseFrom_append_break false [] rest cut
          rw [lowercaseFrom, List.nil_append, List.nil_append] at kept
          rw [lowercaseFrom_append_break false line rest cut, ← kept, ← ih]
          refine lines_line_append isLine' fun d member => ?_
          rw [kept] at member
          cases member
          exact cut

end QueryRegression.RaisedException
