import Mathlib.Data.List.Basic
import QueryRegression.Json.Printer
import QueryRegression.Json.Reader

/-!
# Reading back what was written

A JSON value in which every number is an integer, and every string and every name stands for a
text, is read back from what is written for it (`Json.parse?_pretty`): strings whatever characters
they have, integers whatever their size, arrays and objects however deep they are.

Reading is shown to go on where the text of a value ends. What follows must not be taken for the
rest of a number (`EndsNumber`), and the fuel need not exceed the length of what was written.
-/

namespace QueryRegression

/-! ## Hexadecimal digits -/

namespace Text

theorem hexValue?_hexDigit : ∀ n < 16, hexValue? (hexDigit n) = some n := by decide

/-- The digits of a number are read as this number. -/
theorem hexNumber?_hexDigits (width value n : Nat) (cs : List Char) (fits : n < 16 ^ width) :
    hexNumber? value (hexDigits width n ++ cs) = hexNumber? (16 ^ width * value + n) cs := by
  induction width generalizing n cs with
  | zero => simp [hexDigits, show n = 0 by simpa using fits]
  | succ width ih =>
      have shorter : n / 16 < 16 ^ width := by
        rw [Nat.div_lt_iff_lt_mul (by decide), ← Nat.pow_succ]
        exact fits
      have last : hexValue? (hexDigit (n % 16)) = some (n % 16) :=
        hexValue?_hexDigit _ (Nat.mod_lt n (by decide))
      rw [hexDigits, List.append_assoc, ih _ _ shorter, List.singleton_append, hexNumber?, last]
      have value' : 16 * (16 ^ width * value + n / 16) + n % 16 = 16 ^ (width + 1) * value + n := by
        rw [Nat.pow_succ, Nat.mul_comm (16 ^ width) 16, Nat.mul_assoc]
        omega
      simp only [value']

end Text

namespace Json

/-! ## Blanks -/

/-- The characters that are passed over before a value or a mark. -/
def IsBlank (c : Char) : Prop := c = ' ' ∨ c = '\n' ∨ c = '\t' ∨ c = '\r'

instance : DecidablePred IsBlank := fun _ => inferInstanceAs (Decidable (_ ∨ _))

theorem skipBlanks_of_isBlank {c : Char} (blank : IsBlank c) (cs : List Char) :
    skipBlanks (c :: cs) = skipBlanks cs := by
  rw [skipBlanks]
  exact if_pos blank

theorem skipBlanks_of_not_isBlank {c : Char} (visible : ¬IsBlank c) (cs : List Char) :
    skipBlanks (c :: cs) = c :: cs := by
  rw [skipBlanks]
  exact if_neg visible

theorem skipBlanks_skipBlanks (cs : List Char) : skipBlanks (skipBlanks cs) = skipBlanks cs := by
  induction cs with
  | nil => rfl
  | cons c rest ih =>
      by_cases blank : IsBlank c
      · rw [skipBlanks_of_isBlank blank, ih]
      · rw [skipBlanks_of_not_isBlank blank, skipBlanks_of_not_isBlank blank]

theorem skipBlanks_newLine (depth : Nat) (cs : List Char) :
    skipBlanks ((newLine depth).toList ++ cs) = skipBlanks cs := by
  have spaces : ∀ n, skipBlanks (List.replicate n ' ' ++ cs) = skipBlanks cs := by
    intro n
    induction n with
    | zero => rfl
    | succ n ih => rw [List.replicate_succ, List.cons_append, skipBlanks_of_isBlank (.inl rfl), ih]
  have text : (newLine depth).toList ++ cs =
      '\n' :: (List.replicate (2 * depth) ' ' ++ cs) := by simp [newLine]
  rw [text, skipBlanks_of_isBlank (.inr (.inl rfl)), spaces]

/-! ## Strings -/

/-- The three forms in which a character is written. -/
theorem escapeChar_cases (c : Char) :
    (∃ e, escapeChar c = ['\\', e] ∧ shortEscape? e = some c) ∨
      (c.toNat < 0x20 ∧ escapeChar c = '\\' :: 'u' :: Text.hexDigits 4 c.toNat) ∨
      (0x20 ≤ c.toNat ∧ c ≠ '"' ∧ c ≠ '\\' ∧ escapeChar c = [c]) := by
  unfold escapeChar
  split
  next h => exact .inl ⟨'"', rfl, by rw [h]; rfl⟩
  next notQuote =>
    split
    next h => exact .inl ⟨'\\', rfl, by rw [h]; rfl⟩
    next notBackslash =>
      split
      next h => exact .inl ⟨'b', rfl, by rw [h]; rfl⟩
      split
      next h => exact .inl ⟨'f', rfl, by rw [h]; rfl⟩
      split
      next h => exact .inl ⟨'n', rfl, by rw [h]; rfl⟩
      split
      next h => exact .inl ⟨'r', rfl, by rw [h]; rfl⟩
      split
      next h => exact .inl ⟨'t', rfl, by rw [h]; rfl⟩
      split
      next control => exact .inr (.inl ⟨control, rfl⟩)
      next visible =>
        exact .inr (.inr ⟨Nat.le_of_not_lt visible, notQuote, notBackslash, rfl⟩)

/-- Puts a piece in front of those that were read. -/
def withPiece (piece : StringPiece) (read : Option (List StringPiece × List Char)) :
    Option (List StringPiece × List Char) :=
  read.bind fun (pieces, rest) => some (piece :: pieces, rest)

theorem readPieces_shortEscape {e c : Char} (short : shortEscape? e = some c) (cs : List Char) :
    readPieces ('\\' :: e :: cs) = withPiece (.char c) (readPieces cs) := by
  have notUnit : e ≠ 'u' := by
    rintro rfl
    cases short
  rw [readPieces, short]
  · rfl
  · intro a b c d rest named
    exact absurd named notUnit

theorem readPieces_unit {n : Nat} (fits : n < 16 ^ 4) (cs : List Char) :
    readPieces ('\\' :: 'u' :: (Text.hexDigits 4 n ++ cs)) =
      withPiece (.unit n) (readPieces cs) := by
  have number := Text.hexNumber?_hexDigits 4 0 n [] fits
  rw [List.append_nil, Nat.mul_zero, Nat.zero_add, Text.hexNumber?] at number
  simp only [Text.hexDigits, List.nil_append, List.cons_append] at number ⊢
  rw [readPieces, number]
  rfl

theorem readPieces_of_visible {c : Char} (visible : 0x20 ≤ c.toNat) (notQuote : c ≠ '"')
    (notBackslash : c ≠ '\\') (cs : List Char) :
    readPieces (c :: cs) = withPiece (.char c) (readPieces cs) := by
  have allowed : ¬(c.toNat < 0x20 ∨ c = '\\') := not_or.mpr ⟨Nat.not_lt.mpr visible, notBackslash⟩
  rw [readPieces, if_neg allowed]
  · rfl
  · exact notQuote
  · intro a b c d rest named
    exact absurd named notBackslash
  · intro e rest named
    exact absurd named notBackslash

/-- What is written for a character is read as one piece, which spells it. -/
theorem readPieces_escapeChar (c : Char) :
    ∃ piece, (∀ cs, readPieces (escapeChar c ++ cs) = withPiece piece (readPieces cs)) ∧
      ∀ pieces, joinPieces (piece :: pieces) = (joinPieces pieces).map (c :: ·) := by
  have spelled : ∀ pieces, joinPieces (.char c :: pieces) = (joinPieces pieces).map (c :: ·) :=
    fun pieces => by rw [joinPieces]
  rcases escapeChar_cases c with ⟨e, text, short⟩ | ⟨control, text⟩ | ⟨visible, quote, slash, text⟩
  · exact ⟨.char c, fun cs => by rw [text]; exact readPieces_shortEscape short cs, spelled⟩
  · refine ⟨.unit c.toNat, fun cs => ?_, fun pieces => ?_⟩
    · rw [text]
      exact readPieces_unit (Nat.lt_trans control (by decide)) cs
    · have below : c.toNat < 0xD800 ∨ 0xE000 ≤ c.toNat := .inl (Nat.lt_trans control (by decide))
      rw [joinPieces.eq_def]
      simp only [if_pos below, Char.ofNat_toNat]
  · exact ⟨.char c, fun cs => by rw [text]; exact readPieces_of_visible visible quote slash cs,
      spelled⟩

theorem readPieces_escape (cs rest : List Char) :
    ∃ pieces, readPieces (escape cs ++ '"' :: rest) = some (pieces, rest) ∧
      joinPieces pieces = some cs := by
  induction cs with
  | nil => exact ⟨[], by rw [escape, List.nil_append, readPieces], rfl⟩
  | cons c cs ih =>
      obtain ⟨pieces, read, joined⟩ := ih
      obtain ⟨piece, readFirst, spelled⟩ := readPieces_escapeChar c
      refine ⟨piece :: pieces, ?_, ?_⟩
      · rw [escape, List.append_assoc, readFirst, read]
        rfl
      · rw [spelled, joined]
        rfl

/-- A string is read back, whatever its characters. -/
theorem readString_escape (s : String) (rest : List Char) :
    readString (escape s.toList ++ '"' :: rest) = some (some s, rest) := by
  obtain ⟨pieces, read, joined⟩ := readPieces_escape s.toList rest
  rw [readString, read]
  simp [joined]

/-! ## Integers -/

/-- What may follow a number: nothing that would be read as a part of it. -/
def EndsNumber (rest : List Char) : Prop :=
  ∀ c ∈ rest.head?, c.isDigit = false ∧ c ≠ '.' ∧ c ≠ 'e' ∧ c ≠ 'E'

theorem endsNumber_cons {c : Char} (rest : List Char) (notDigit : c.isDigit = false)
    (notPoint : c ≠ '.') (notExponent : c ≠ 'e' ∧ c ≠ 'E') : EndsNumber (c :: rest) := by
  intro d first
  cases first
  exact ⟨notDigit, notPoint, notExponent⟩

theorem readDigits_append {digits rest : List Char} (nonempty : digits ≠ [])
    (all : ∀ c ∈ digits, c.isDigit = true) (ends : EndsNumber rest) :
    readDigits (digits ++ rest) = some (digits, rest) := by
  have stops : rest.takeWhile Char.isDigit = [] ∧ rest.dropWhile Char.isDigit = rest := by
    cases rest with
    | nil => exact ⟨rfl, rfl⟩
    | cons c rest =>
        have notDigit := (ends c rfl).1
        simp [notDigit]
  have notEmpty : ¬digits.isEmpty = true := by simpa using nonempty
  rw [readDigits, List.takeWhile_append_of_pos all, List.dropWhile_append_of_pos all, stops.1,
    stops.2, List.append_nil]
  exact if_neg notEmpty

/-- The digits of a number other than zero do not begin with zero. -/
theorem head?_toDigits_ne {n : Nat} (positive : 0 < n) :
    (Nat.toDigits 10 n).head? ≠ some '0' := by
  induction n using Nat.strongRecOn with
  | ind n ih =>
      by_cases small : n < 10
      · have digit : ∀ k < 10, 0 < k → Nat.digitChar k ≠ '0' := by decide
        rw [Nat.toDigits_of_lt_base small]
        simpa using digit n small positive
      · have tenth : n / 10 < n := Nat.div_lt_self positive (by decide)
        have before := ih (n / 10) tenth (Nat.div_pos (Nat.le_of_not_lt small) (by decide))
        rw [Nat.toDigits_of_base_le (by decide) (Nat.le_of_not_lt small),
          List.head?_append_of_ne_nil _ Nat.toDigits_ne_nil]
        exact before

theorem readWhole_toDigits (n : Nat) {rest : List Char} (ends : EndsNumber rest) :
    readWhole (Nat.toDigits 10 n ++ rest) = some (Nat.toDigits 10 n, rest) := by
  have leading : ¬((Nat.toDigits 10 n).length > 1 ∧ (Nat.toDigits 10 n).head? = some '0') := by
    rintro ⟨long, zero⟩
    rcases Nat.eq_zero_or_pos n with rfl | positive
    · exact absurd long (by decide)
    · exact head?_toDigits_ne positive zero
  have all : ∀ c ∈ Nat.toDigits 10 n, c.isDigit = true := fun c member =>
    Nat.isDigit_of_mem_toDigits (by decide) (by decide) member
  rw [readWhole, readDigits_append Nat.toDigits_ne_nil all ends]
  exact if_neg leading

theorem digitsValue_toDigits (n : Nat) : digitsValue (Nat.toDigits 10 n) = n := by
  have value := Nat.ofDigitChars_ten_toDigits (n := n)
  rw [Nat.ofDigitChars_eq_foldl] at value
  exact value

theorem readFraction_of_ends {rest : List Char} (ends : EndsNumber rest) :
    readFraction rest = some ([], rest) := by
  unfold readFraction
  split
  next rest => exact absurd rfl (ends '.' rfl).2.1
  next => rfl

theorem readExponent_of_ends {rest : List Char} (ends : EndsNumber rest) :
    readExponent rest = some ([], rest) := by
  unfold readExponent
  split
  next c rest =>
    have notExponent := (ends c rfl).2.2
    exact if_neg (not_or.mpr notExponent)
  next => rfl

/-- The digits of a number are read back, unless they are those of a minus zero. -/
theorem readNumber_toDigits (negative : Bool) (n : Nat) (signed : negative = true → 0 < n)
    {rest : List Char} (ends : EndsNumber rest) :
    readNumber negative (Nat.toDigits 10 n ++ rest) =
      some (.integer (if negative then -(n : Int) else n), rest) := by
  have notMinusZero : ¬(negative = true ∧ n = 0) := by
    rintro ⟨isNegative, rfl⟩
    exact absurd (signed isNegative) (Nat.lt_irrefl 0)
  rw [readNumber, readWhole_toDigits n ends]
  simp [readFraction_of_ends ends, readExponent_of_ends ends, digitsValue_toDigits, notMinusZero]

/-! ## Values -/

/-- A value in which every number is an integer, and every string and name stands for a text. -/
inductive IsLegible : Json → Prop
  | null : IsLegible .null
  | bool (b : Bool) : IsLegible (.bool b)
  | integer (n : Int) : IsLegible (.integer n)
  | string (s : String) : IsLegible (.string s)
  | array {elements : List Json} : (∀ e ∈ elements, IsLegible e) → IsLegible (.array elements)
  | record {members : List (String × Json)} : (∀ m ∈ members, IsLegible m.2) →
      IsLegible (.record members)

/-- A value is read where it was written, whatever follows it. -/
def ReadsBack (v : Json) : Prop :=
  ∀ depth fuel rest, EndsNumber rest → (v.prettyAt depth).toList.length ≤ fuel →
    readValue fuel ((v.prettyAt depth).toList ++ rest) = some (v, rest)

theorem readValue_skipBlanks (fuel : Nat) (cs : List Char) :
    readValue fuel (skipBlanks cs) = readValue fuel cs := by
  rw [readValue.eq_def, readValue.eq_def fuel cs, skipBlanks_skipBlanks]

theorem readValue_newLine (fuel depth : Nat) (cs : List Char) :
    readValue fuel ((newLine depth).toList ++ cs) = readValue fuel cs := by
  rw [← readValue_skipBlanks, skipBlanks_newLine, readValue_skipBlanks]

theorem readElements_skipBlanks (fuel : Nat) (cs : List Char) :
    readElements fuel (skipBlanks cs) = readElements fuel cs := by
  cases fuel with
  | zero => rfl
  | succ fuel => rw [readElements, readElements, readValue_skipBlanks]

theorem readMembers_skipBlanks (fuel : Nat) (cs : List Char) :
    readMembers fuel (skipBlanks cs) = readMembers fuel cs := by
  rw [readMembers.eq_def, readMembers.eq_def fuel cs, skipBlanks_skipBlanks]

/-- No element begins with the bracket that closes an array. -/
theorem readElements_bracket (fuel : Nat) (rest : List Char) :
    readElements fuel (']' :: rest) = none := by
  cases fuel with
  | zero => rfl
  | succ fuel => cases fuel <;> rfl

/-- No member begins with the brace that closes an object. -/
theorem readMembers_brace (fuel : Nat) (rest : List Char) :
    readMembers fuel ('\x7d' :: rest) = none := by
  cases fuel <;> rfl

theorem length_newLine (depth : Nat) : (newLine depth).toList.length = 2 * depth + 1 := by
  simp [newLine, Nat.add_comm]

theorem endsNumber_newLine (depth : Nat) (cs : List Char) :
    EndsNumber ((newLine depth).toList ++ cs) := by
  have text : (newLine depth).toList ++ cs =
      '\n' :: (List.replicate (2 * depth) ' ' ++ cs) := by simp [newLine]
  rw [text]
  exact endsNumber_cons _ rfl (by decide) (by decide)

theorem skipBlanks_newLine_cons (depth : Nat) {c : Char} (visible : ¬IsBlank c) (cs : List Char) :
    skipBlanks ((newLine depth).toList ++ c :: cs) = c :: cs := by
  rw [skipBlanks_newLine, skipBlanks_of_not_isBlank visible]

/-- Elements are read up to the bracket on the line after the last one. -/
theorem readElements_prettyElements {elements : List Json} (each : ∀ e ∈ elements, ReadsBack e)
    (nonempty : elements ≠ []) (depth outer fuel : Nat) (rest : List Char)
    (enough : (prettyElements depth elements).toList.length ≤ fuel) :
    readElements fuel ((prettyElements depth elements).toList ++
      ((newLine outer).toList ++ ']' :: rest)) = some (elements, rest) := by
  induction elements generalizing fuel with
  | nil => exact absurd rfl nonempty
  | cons e more ih =>
      have readsFirst := each e List.mem_cons_self
      cases more with
      | nil =>
          simp only [prettyElements, String.toList_append, List.length_append, length_newLine]
            at enough
          obtain ⟨fuel, rfl⟩ := Nat.exists_eq_add_of_le' (show 1 ≤ fuel by omega)
          have read := readsFirst depth fuel _ (endsNumber_newLine outer (']' :: rest)) (by omega)
          have closing := skipBlanks_newLine_cons outer (c := ']') (by decide) rest
          rw [prettyElements, String.toList_append, List.append_assoc, readElements,
            readValue_newLine, read]
          simp [closing]
      | cons next more =>
          simp only [prettyElements, String.toList_append, List.length_append, length_newLine]
            at enough
          obtain ⟨fuel, rfl⟩ := Nat.exists_eq_add_of_le' (show 1 ≤ fuel by omega)
          let after := (prettyElements depth (next :: more)).toList ++
            ((newLine outer).toList ++ ']' :: rest)
          have comma : EndsNumber (',' :: after) :=
            endsNumber_cons after rfl (by decide) (by decide)
          have read := readsFirst depth fuel _ comma (by omega)
          have others := ih (fun e' member => each e' (List.mem_cons_of_mem e member))
            (List.cons_ne_nil next more) fuel (by omega)
          have text : (prettyElements depth (e :: next :: more)).toList ++
              ((newLine outer).toList ++ ']' :: rest) =
                (newLine depth).toList ++ ((e.prettyAt depth).toList ++ ',' :: after) := by
            simp [prettyElements, after]
          rw [text, readElements, readValue_newLine, read]
          simp [skipBlanks_of_not_isBlank (c := ',') (by decide), after, others]

/-- What is written for a member: its name in quotes, a colon and a blank, and its value. -/
theorem readMembers_cons {v : Json} (reads : ReadsBack v) (name : String) (depth fuel : Nat)
    {after : List Char} (ends : EndsNumber after)
    (enough : (v.prettyAt depth).toList.length ≤ fuel) :
    readMembers (fuel + 1) ((newLine depth).toList ++ ((quotedName (some name)).toList ++
      ':' :: ' ' :: ((v.prettyAt depth).toList ++ after))) =
        match skipBlanks after with
        | ',' :: rest => (readMembers fuel rest).bind fun (members, rest) =>
          some ((some name, v) :: members, rest)
        | '\x7d' :: rest => some ([(some name, v)], rest)
        | _ => none := by
  have text :
      (quotedName (some name)).toList ++ ':' :: ' ' :: ((v.prettyAt depth).toList ++ after) =
        '"' :: (escape name.toList ++
          '"' :: ':' :: ' ' :: ((v.prettyAt depth).toList ++ after)) := by
    simp [quotedName, quoted]
  have quote := skipBlanks_newLine_cons depth (c := '"') (by decide)
  have colon := skipBlanks_of_not_isBlank (c := ':') (by decide)
  have read : readValue fuel (' ' :: ((v.prettyAt depth).toList ++ after)) = some (v, after) := by
    rw [← readValue_skipBlanks, skipBlanks_of_isBlank (.inl rfl), readValue_skipBlanks]
    exact reads depth fuel after ends enough
  rw [text, readMembers.eq_def, quote]
  simp only [readString_escape, Option.bind_eq_bind, Option.bind_some, colon, read]
  rfl

/-- Members whose names stand for texts. -/
def named (members : List (String × Json)) : List (Option String × Json) :=
  members.map fun (name, v) => (some name, v)

/-- Members are read up to the brace on the line after the last one. -/
theorem readMembers_prettyMembers {members : List (String × Json)}
    (each : ∀ m ∈ members, ReadsBack m.2) (nonempty : members ≠ []) (depth outer fuel : Nat)
    (rest : List Char) (enough : (prettyMembers depth (named members)).toList.length ≤ fuel) :
    readMembers fuel ((prettyMembers depth (named members)).toList ++
      ((newLine outer).toList ++ '\x7d' :: rest)) = some (named members, rest) := by
  induction members generalizing fuel with
  | nil => exact absurd rfl nonempty
  | cons first more ih =>
      obtain ⟨name, v⟩ := first
      have reads : ReadsBack v := each _ List.mem_cons_self
      cases more with
      | nil =>
          simp only [named, List.map_cons, List.map_nil, prettyMembers, String.toList_append,
            List.length_append, length_newLine] at enough
          obtain ⟨fuel, rfl⟩ := Nat.exists_eq_add_of_le' (show 1 ≤ fuel by omega)
          have read := readMembers_cons reads name depth fuel
            (endsNumber_newLine outer ('\x7d' :: rest)) (by omega)
          rw [skipBlanks_newLine_cons outer (by decide)] at read
          simpa [named, prettyMembers] using read
      | cons next more =>
          have split : named ((name, v) :: next :: more) =
            (some name, v) :: (some next.1, next.2) :: named more := rfl
          have others := ih (fun m member => each m (List.mem_cons_of_mem _ member))
            (List.cons_ne_nil next more)
          have tail : named (next :: more) = (some next.1, next.2) :: named more := rfl
          rw [tail] at others
          let after := (prettyMembers depth ((some next.1, next.2) :: named more)).toList ++
            ((newLine outer).toList ++ '\x7d' :: rest)
          rw [split] at enough ⊢
          simp only [prettyMembers, String.toList_append, List.length_append,
            length_newLine] at enough
          obtain ⟨fuel, rfl⟩ := Nat.exists_eq_add_of_le' (show 1 ≤ fuel by omega)
          have comma : EndsNumber (',' :: after) :=
            endsNumber_cons after rfl (by decide) (by decide)
          have read := readMembers_cons reads name depth fuel comma (by omega)
          rw [skipBlanks_of_not_isBlank (by decide)] at read
          simp only [after, others fuel (by omega)] at read
          simpa [prettyMembers] using read

/-! ## Whole texts -/

/-- A word is read by its first letter and the rest. -/
theorem readsBack_null : ReadsBack .null := by
  intro depth fuel rest _ enough
  have positive : 1 ≤ fuel := by
    simp [prettyAt] at enough
    omega
  obtain ⟨fuel, rfl⟩ := Nat.exists_eq_add_of_le' positive
  simp [prettyAt, readValue, skipBlanks, readWord]

theorem readsBack_bool (b : Bool) : ReadsBack (.bool b) := by
  intro depth fuel rest _ enough
  cases b with
  | false =>
      have positive : 1 ≤ fuel := by
        simp [prettyAt] at enough
        omega
      obtain ⟨fuel, rfl⟩ := Nat.exists_eq_add_of_le' positive
      simp [prettyAt, readValue, skipBlanks, readWord]
  | true =>
      have positive : 1 ≤ fuel := by
        simp [prettyAt] at enough
        omega
      obtain ⟨fuel, rfl⟩ := Nat.exists_eq_add_of_le' positive
      simp [prettyAt, readValue, skipBlanks, readWord]

theorem readsBack_string (s : String) : ReadsBack (.string s) := by
  intro depth fuel rest _ enough
  have text : (prettyAt depth (.string s)).toList ++ rest =
      '"' :: (escape s.toList ++ '"' :: rest) := by simp [prettyAt, quoted]
  have positive : 1 ≤ fuel := by
    simp [prettyAt, quoted] at enough
    omega
  obtain ⟨fuel, rfl⟩ := Nat.exists_eq_add_of_le' positive
  rw [text, readValue.eq_def, skipBlanks_of_not_isBlank (by decide)]
  simp [readString_escape]

/-- A digit begins a number. -/
theorem readValue_digit {d : Char} (digit : d.isDigit = true) (fuel : Nat) (cs : List Char) :
    readValue (fuel + 1) (d :: cs) = readNumber false (d :: cs) := by
  have notDigit : ∀ c, c.isDigit = false → d ≠ c := by
    rintro c other rfl
    exact absurd (digit.symm.trans other) (by decide)
  have visible : ¬IsBlank d := by
    simp [IsBlank, notDigit ' ' rfl, notDigit '\n' rfl, notDigit '\t' rfl, notDigit '\r' rfl]
  rw [readValue.eq_def, skipBlanks_of_not_isBlank visible]
  simp [notDigit 'n' rfl, notDigit 't' rfl, notDigit 'f' rfl, notDigit '"' rfl, notDigit '[' rfl,
    notDigit '\x7b' rfl, notDigit '-' rfl]

theorem readValue_toDigits (n fuel : Nat) {rest : List Char} (ends : EndsNumber rest) :
    readValue (fuel + 1) (Nat.toDigits 10 n ++ rest) = some (.integer n, rest) := by
  have read := readNumber_toDigits false n nofun ends
  cases written : Nat.toDigits 10 n with
  | nil => exact absurd written Nat.toDigits_ne_nil
  | cons d more =>
      have digit : d.isDigit = true :=
        Nat.isDigit_of_mem_toDigits (by decide) (Nat.le_refl 10)
          (written ▸ List.mem_cons_self : d ∈ Nat.toDigits 10 n)
      rw [written, List.cons_append] at read
      rw [List.cons_append, readValue_digit digit, read]
      rfl

theorem readsBack_integer (n : Int) : ReadsBack (.integer n) := by
  intro depth fuel rest ends enough
  have text : (prettyAt depth (.integer n)).toList =
      if 0 ≤ n then Nat.toDigits 10 n.natAbs else '-' :: Nat.toDigits 10 n.natAbs := by
    rw [prettyAt, Int.toString_eq_repr, Int.repr_eq_if]
    split
    next => simp [Nat.repr_eq_ofList_toDigits, show n.toNat = n.natAbs by omega]
    next => simp [Nat.repr_eq_ofList_toDigits, show (-n).toNat = n.natAbs by omega]
  rw [text] at enough ⊢
  split at enough
  next nonnegative =>
    have some := List.length_pos_of_ne_nil (Nat.toDigits_ne_nil (n := n.natAbs) (b := 10))
    obtain ⟨fuel, rfl⟩ := Nat.exists_eq_add_of_le' (Nat.le_trans some enough)
    rw [if_pos nonnegative, readValue_toDigits _ _ ends, Int.natAbs_of_nonneg nonnegative]
  next negative =>
    have digits := readNumber_toDigits true n.natAbs (fun _ => by omega) ends
    obtain ⟨fuel, rfl⟩ := Nat.exists_eq_add_of_le' (Nat.le_trans (Nat.le_add_left ..) enough)
    have value : -(n.natAbs : Int) = n := by omega
    rw [if_neg negative, List.cons_append, readValue.eq_def,
      skipBlanks_of_not_isBlank (by decide)]
    simp only [Char.reduceEq, if_true, if_false]
    rw [digits]
    simp only [if_true, value]

theorem readsBack_array {elements : List Json} (each : ∀ e ∈ elements, ReadsBack e) :
    ReadsBack (.array elements) := by
  intro depth fuel rest _ enough
  cases elements with
  | nil =>
      have positive : 1 ≤ fuel := by
        simp [prettyAt] at enough
        omega
      obtain ⟨fuel, rfl⟩ := Nat.exists_eq_add_of_le' positive
      simp [prettyAt, readValue, skipBlanks]
  | cons e more =>
      let inner := (prettyElements (depth + 1) (e :: more)).toList ++
        ((newLine depth).toList ++ ']' :: rest)
      have text : (prettyAt depth (.array (e :: more))).toList ++ rest = '[' :: inner := by
        simp [prettyAt, inner]
      have length := congrArg List.length text
      simp only [inner, List.length_append, List.length_cons] at length
      obtain ⟨fuel, rfl⟩ := Nat.exists_eq_add_of_le' (show 1 ≤ fuel by omega)
      have read := readElements_prettyElements each (List.cons_ne_nil e more) (depth + 1) depth fuel
        rest (by omega)
      -- The array is not empty, for no element begins with the closing bracket.
      have notClosed : ∀ after, skipBlanks inner ≠ ']' :: after := by
        intro after closed
        rw [← readElements_skipBlanks, closed, readElements_bracket] at read
        cases read
      rw [text, readValue.eq_def, skipBlanks_of_not_isBlank (by decide)]
      simp only [Char.reduceEq, if_true, if_false]
      rw [readElements_skipBlanks, read]
      rfl

theorem readsBack_record {members : List (String × Json)} (each : ∀ m ∈ members, ReadsBack m.2) :
    ReadsBack (.record members) := by
  intro depth fuel rest _ enough
  rw [show record members = .object (named members) from rfl] at enough ⊢
  cases members with
  | nil =>
      have positive : 1 ≤ fuel := by
        simp [named, prettyAt] at enough
        omega
      obtain ⟨fuel, rfl⟩ := Nat.exists_eq_add_of_le' positive
      simp [named, prettyAt, readValue, skipBlanks]
  | cons first more =>
      let inner := (prettyMembers (depth + 1) (named (first :: more))).toList ++
        ((newLine depth).toList ++ '\x7d' :: rest)
      have text : (prettyAt depth (.object (named (first :: more)))).toList ++ rest =
          '\x7b' :: inner := by
        simp [named, prettyAt, inner]
      have length := congrArg List.length text
      simp only [inner, List.length_append, List.length_cons] at length
      obtain ⟨fuel, rfl⟩ := Nat.exists_eq_add_of_le' (show 1 ≤ fuel by omega)
      have read := readMembers_prettyMembers each (List.cons_ne_nil first more) (depth + 1) depth
        fuel rest (by omega)
      -- The object is not empty, for a name follows.
      have notClosed : ∀ after, skipBlanks inner ≠ '\x7d' :: after := by
        intro after closed
        rw [← readMembers_skipBlanks, closed, readMembers_brace] at read
        cases read
      rw [text, readValue.eq_def, skipBlanks_of_not_isBlank (by decide)]
      simp only [Char.reduceEq, if_true, if_false]
      rw [readMembers_skipBlanks, read]
      rfl

theorem readsBack_of_isLegible {v : Json} (legible : v.IsLegible) : v.ReadsBack := by
  induction legible with
  | null => exact readsBack_null
  | bool b => exact readsBack_bool b
  | integer n => exact readsBack_integer n
  | string s => exact readsBack_string s
  | array _ each => exact readsBack_array each
  | record _ each => exact readsBack_record each

/-- What is written for a value on several lines is read as this value. -/
theorem parse?_pretty {v : Json} (legible : v.IsLegible) : parse? v.pretty = some v := by
  have text : v.pretty.toList = (v.prettyAt 0).toList ++ [] := (List.append_nil _).symm
  have read := readsBack_of_isLegible legible 0 (2 * v.pretty.toList.length + 1) []
    (fun c first => nomatch first) (by rw [pretty]; omega)
  rw [← text] at read
  rw [parse?, parseChars?, read]
  rfl

end Json
end QueryRegression
