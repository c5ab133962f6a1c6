import Mathlib.Data.List.Forall2
import QueryRegression.Regex.Parser

/-!
# Case in the names of patterns

In a pattern, a code point is named by hexadecimal digits and a set of characters by a property, and
these names mean the same in letters of either case. `Regex.Respelled` relates two patterns that
differ in nothing else. What a reader makes of a name is stated by one equation for each kind of
name, with any text behind it, and by a congruence for alike names.
-/

namespace QueryRegression.Regex

open Text

/-! ## Letters of names -/

/-- A character that may stand in a name: no blank, and no sign that begins or ends a part. -/
def isNameChar (c : Char) : Bool := !isBlank c && !(['#', '\\', '\x7b', '\x7d'].contains c)

theorem ne_of_named {c d : Char} (named : isNameChar c = true) (sign : isNameChar d = false) :
    c ≠ d := by
  rintro rfl
  rw [named] at sign
  cases sign

/-- Two characters of names are alike: equal, or one letter of ASCII in both cases. -/
inductive SameLetter : Char → Char → Prop
  | same {c : Char} (named : isNameChar c = true) : SameLetter c c
  | cased {c d : Char} (letter : c.isAlpha = true) (letter' : d.isAlpha = true)
      (lower : c.toLower = d.toLower) : SameLetter c d

/-- The letters of ASCII. -/
def letters : List Char := "ABCDEFGHIJKLMNOPQRSTUVWXYZabcdefghijklmnopqrstuvwxyz".toList

theorem mem_letters {c : Char} (letter : c.isAlpha = true) : c ∈ letters := by
  have below : c.toNat < 123 := by
    rcases (Bool.or_eq_true _ _).mp letter with upper | lower
    · have le := (of_decide_eq_true upper).2
      exact Nat.lt_of_le_of_lt (UInt32.le_iff_toNat_le.mp le) (by decide)
    · have le := of_decide_eq_true ((Bool.and_eq_true _ _).mp lower).2
      exact Nat.lt_of_le_of_lt (UInt32.le_iff_toNat_le.mp le) (by decide)
  have small : ∀ n < 123, (Char.ofNat n).isAlpha = true → Char.ofNat n ∈ letters := by decide
  rw [← Char.ofNat_toNat c] at letter ⊢
  exact small _ below letter

/-- What does not tell the cases of letters apart does not tell alike characters apart. -/
theorem SameLetter.congr {α : Type} {f : Char → α}
    (caseless : letters.map f = letters.map fun c => f c.toLower) {c d : Char}
    (alike : SameLetter c d) : f c = f d := by
  cases alike with
  | same => rfl
  | cased letter letter' lower =>
      have same := List.map_inj_left.mp caseless
      rw [same c (mem_letters letter), lower, ← same d (mem_letters letter')]

theorem SameLetter.named {c d : Char} (alike : SameLetter c d) :
    isNameChar c = true ∧ isNameChar d = true := by
  cases alike with
  | same named => exact ⟨named, named⟩
  | cased letter letter' lower =>
      have named := List.all_eq_true.mp (by decide : letters.all isNameChar = true)
      exact ⟨named c (mem_letters letter), named d (mem_letters letter')⟩

/-- Two names are alike. -/
abbrev SameName (name name' : List Char) : Prop := List.Forall₂ SameLetter name name'

theorem SameName.named {name name' : List Char} (alike : SameName name name') :
    (∀ c ∈ name, isNameChar c = true) ∧ ∀ c ∈ name', isNameChar c = true := by
  induction alike with
  | nil => exact ⟨nofun, nofun⟩
  | cons first _ ih =>
      exact ⟨List.forall_mem_cons.mpr ⟨first.named.1, ih.1⟩,
        List.forall_mem_cons.mpr ⟨first.named.2, ih.2⟩⟩

/-! ## Patterns alike but for the case of names -/

/-- How many characters a code point or a property has without braces, by the letter that announces
it. -/
def nameLength? : Char → Option Nat
  | 'x' => some 2
  | 'u' => some 4
  | 'U' => some 8
  | 'p' | 'P' => some 1
  | _ => none

/-- Two texts are alike but for the case of letters in the names of code points and properties.
`escaped` tells whether a backslash stands before them. From some place on, they may be equal. -/
inductive Respelled : Bool → List Char → List Char → Prop
  | same (escaped : Bool) (cs : List Char) : Respelled escaped cs cs
  | plain {c : Char} {cs ds : List Char} (plain : c ≠ '\\') (rest : Respelled false cs ds) :
      Respelled false (c :: cs) (c :: ds)
  | backslash {cs ds : List Char} (rest : Respelled true cs ds) :
      Respelled false ('\\' :: cs) ('\\' :: ds)
  | escaped {c : Char} {cs ds : List Char} (nameless : nameLength? c = none)
      (rest : Respelled false cs ds) : Respelled true (c :: cs) (c :: ds)
  | named {c : Char} {name name' cs ds : List Char} (long : nameLength? c = some name.length)
      (alike : SameName name name') (rest : Respelled false cs ds) :
      Respelled true (c :: (name ++ cs)) (c :: (name' ++ ds))
  | braced {c : Char} {name name' cs ds : List Char} (announced : (nameLength? c).isSome = true)
      (alike : SameName name name') (rest : Respelled false cs ds) :
      Respelled true (c :: '\x7b' :: (name ++ '\x7d' :: cs))
        (c :: '\x7b' :: (name' ++ '\x7d' :: ds))

namespace Respelled

theorem length_eq {escaped : Bool} {cs ds : List Char} (alike : Respelled escaped cs ds) :
    cs.length = ds.length := by
  induction alike with
  | same => rfl
  | plain _ _ ih | backslash _ ih | escaped _ _ ih => simp [ih]
  | named _ alike _ ih | braced _ alike _ ih => simp [ih, alike.length_eq]

/-- Texts alike begin with one character and are alike behind it. -/
theorem cons_left {c : Char} {cs ds : List Char} (alike : Respelled false (c :: cs) ds) :
    ∃ ds', ds = c :: ds' ∧ Respelled (c == '\\') cs ds' := by
  cases alike with
  | same => exact ⟨cs, rfl, .same _ _⟩
  | plain plain rest => exact ⟨_, rfl, by rwa [beq_eq_false_iff_ne.mpr plain]⟩
  | backslash rest => exact ⟨_, rfl, rest⟩

theorem cases_head {cs ds : List Char} (alike : Respelled false cs ds) :
    cs = ds ∨ ∃ c cs' ds', cs = c :: cs' ∧ ds = c :: ds' ∧ Respelled (c == '\\') cs' ds' := by
  cases cs with
  | nil =>
      cases alike
      exact .inl rfl
  | cons c cs =>
      obtain ⟨ds, rfl, rest⟩ := alike.cons_left
      exact .inr ⟨c, cs, ds, rfl, rfl, rest⟩

/-- Behind a character that is no backslash, texts alike go on alike. -/
theorem tail_of_ne {c : Char} {cs ds : List Char} (alike : Respelled (c == '\\') cs ds)
    (plain : c ≠ '\\') : Respelled false cs ds := by
  rwa [beq_eq_false_iff_ne.mpr plain] at alike

/-- Up to a character, texts alike are equal, or a backslash stands in both. -/
theorem takeWhile_ne {stop : Char} (plainStop : stop ≠ '\\') {cs ds : List Char}
    (alike : Respelled false cs ds) :
    cs.takeWhile (· ≠ stop) = ds.takeWhile (· ≠ stop) ∧
        Respelled false (cs.dropWhile (· ≠ stop)) (ds.dropWhile (· ≠ stop)) ∨
      '\\' ∈ cs.takeWhile (· ≠ stop) ∧ '\\' ∈ ds.takeWhile (· ≠ stop) := by
  generalize shape : false = escaped at alike
  induction alike with
  | same => exact .inl ⟨rfl, .same _ _⟩
  | @plain c cs ds plain rest ih =>
      simp only [List.takeWhile_cons, List.dropWhile_cons]
      split
      · rcases ih rfl with ⟨equal, after⟩ | ⟨left, right⟩
        · exact .inl ⟨congrArg (c :: ·) equal, after⟩
        · exact .inr ⟨List.mem_cons_of_mem _ left, List.mem_cons_of_mem _ right⟩
      · exact .inl ⟨rfl, .plain plain rest⟩
  | backslash => exact .inr (by simp [plainStop.symm])
  | escaped | named | braced => cases shape

/-! ### Blanks and comments -/

/-- A comment goes on over a name. -/
theorem skip_append {name : List Char} (named : ∀ c ∈ name, isNameChar c = true) (cs : List Char) :
    Flags.skip true (name ++ cs) = Flags.skip true cs := by
  induction name with
  | nil => rfl
  | cons c name ih =>
      rw [List.forall_mem_cons] at named
      simp [Flags.skip, ne_of_named named.1 (by decide : isNameChar '\n' = false), ih named.2]

theorem ne_newline_of_announced {c : Char} (announced : (nameLength? c).isSome = true) :
    c ≠ '\n' := by
  rintro rfl
  exact absurd announced (by decide)

theorem skip {escaped : Bool} {cs ds : List Char} (alike : Respelled escaped cs ds)
    {inComment : Bool} (inside : escaped = true → inComment = true) :
    Respelled false (Flags.skip inComment cs) (Flags.skip inComment ds) := by
  induction alike generalizing inComment with
  | same => exact .same _ _
  | @plain c cs ds plain rest ih =>
      rw [Flags.skip, Flags.skip]
      split
      · exact ih nofun
      · split
        · exact ih nofun
        · split
          · exact ih nofun
          · exact .plain plain rest
  | backslash rest ih =>
      cases inComment
      · exact .backslash rest
      · exact ih fun _ => rfl
  | @escaped c cs ds _ rest ih =>
      rw [inside rfl]
      exact ih nofun
  | @named c name name' cs ds long alike rest ih =>
      have first := ne_newline_of_announced (c := c) (by rw [long]; rfl)
      simpa [inside rfl, Flags.skip, first, skip_append alike.named.1, skip_append alike.named.2]
        using @ih true nofun
  | @braced c name name' cs ds announced alike rest ih =>
      have first := ne_newline_of_announced announced
      simpa [inside rfl, Flags.skip, first, skip_append alike.named.1, skip_append alike.named.2]
        using @ih true nofun

theorem next (flags : Flags) {cs ds : List Char} (alike : Respelled false cs ds) :
    Respelled false (flags.next cs) (flags.next ds) := by
  rw [Flags.next, Flags.next]
  split
  · exact alike.skip nofun
  · exact alike

end Respelled

/-! ## Names of code points -/

theorem next_of_named (flags : Flags) {c : Char} (named : isNameChar c = true) (cs : List Char) :
    flags.next (c :: cs) = c :: cs := by
  have sign : c ≠ '#' := ne_of_named named (by decide)
  have blank : isBlank c = false := by
    rw [isNameChar, Bool.and_eq_true, Bool.not_eq_true'] at named
    exact named.1
  simp [Flags.next, Flags.skip, blank, sign]

theorem next_openBrace (flags : Flags) (cs : List Char) :
    flags.next ('\x7b' :: cs) = '\x7b' :: cs := by
  unfold Flags.next
  split <;> rfl

theorem next_closeBrace (flags : Flags) (cs : List Char) :
    flags.next ('\x7d' :: cs) = '\x7d' :: cs := by
  unfold Flags.next
  split <;> rfl

/-- Digits without braces spell their number. -/
theorem readHex_named (flags : Flags) (value : Nat) {name : List Char}
    (named : ∀ c ∈ name, isNameChar c = true) (cs : List Char) :
    readHex flags value name.length (name ++ cs) =
      (hexNumber? value name).elim (.error .invalidEscape) fun n => .ok (n, cs) := by
  induction name generalizing value with
  | nil => rfl
  | cons c name ih =>
      rw [List.forall_mem_cons] at named
      rw [List.length_cons, List.cons_append, readHex, next_of_named flags named.1, hexNumber?]
      dsimp only
      cases hexValue? c with
      | none => rfl
      | some d => exact ih _ named.2

/-- So do digits in braces, if there is one. -/
theorem readHexBrace_named (flags : Flags) (value : Option Nat) {name : List Char}
    (named : ∀ c ∈ name, isNameChar c = true) (fuel : Nat) (enough : name.length < fuel)
    (cs : List Char) :
    readHexBrace flags value fuel (name ++ '\x7d' :: cs) =
      if value = none ∧ name = [] then .error .invalidEscape
      else (hexNumber? (value.getD 0) name).elim (.error .invalidEscape) fun n => .ok (n, cs) := by
  induction name generalizing value fuel with
  | nil =>
      cases fuel with
      | zero => exact absurd enough (Nat.not_lt_zero _)
      | succ fuel =>
          unfold readHexBrace
          rw [List.nil_append, next_closeBrace]
          cases value <;> simp [hexNumber?]
  | cons c name ih =>
      cases fuel with
      | zero => exact absurd enough (Nat.not_lt_zero _)
      | succ fuel =>
          rw [List.forall_mem_cons] at named
          unfold readHexBrace
          rw [List.cons_append, next_of_named flags named.1]
          dsimp only
          rw [if_neg (ne_of_named named.1 (by decide)), hexNumber?, if_neg (by simp)]
          cases hexValue? c with
          | none => rfl
          | some d =>
              have read := ih (some (16 * value.getD 0 + d)) named.2 fuel
                (Nat.lt_of_succ_lt_succ enough)
              rwa [if_neg (fun both => nomatch both.1)] at read

theorem hexValue?_congr {c d : Char} (alike : SameLetter c d) : hexValue? c = hexValue? d :=
  alike.congr (by decide)

theorem hexNumber?_congr {name name' : List Char} (alike : SameName name name') (value : Nat) :
    hexNumber? value name = hexNumber? value name' := by
  induction alike generalizing value with
  | nil => rfl
  | cons first _ ih =>
      rw [hexNumber?, hexNumber?, hexValue?_congr first]
      split
      · exact ih _
      · rfl

/-- The character of a code point, and the text behind its name. -/
def codePoint (value : Option Nat) (byte : Bool) (cs : List Char) :
    Except Fault (Escape × List Char) :=
  match value.bind charOfCode? with
  | some c => .ok (.char c byte, cs)
  | none => .error .invalidEscape

theorem readCodePoint_named (flags : Flags) {name : List Char} (long : name ≠ [])
    (named : ∀ c ∈ name, isNameChar c = true) (cs : List Char) :
    readCodePoint flags name.length (name ++ cs) =
      codePoint (hexNumber? 0 name) (name.length == 2) cs := by
  obtain ⟨c, more, rfl⟩ := List.exists_cons_of_ne_nil long
  have first := named c List.mem_cons_self
  have noBrace : c ≠ '\x7b' := ne_of_named first (by decide)
  have read := readHex_named flags 0 named cs
  unfold readCodePoint
  rw [List.cons_append] at read ⊢
  rw [next_of_named flags first]
  simp only [List.cons.injEq, noBrace, false_and, imp_self, implies_true]
  rw [read]
  cases hexNumber? 0 (c :: more) <;> rfl

theorem readCodePoint_braced (flags : Flags) (digits : Nat) {name : List Char}
    (named : ∀ c ∈ name, isNameChar c = true) (cs : List Char) :
    readCodePoint flags digits ('\x7b' :: (name ++ '\x7d' :: cs)) =
      codePoint (if name = [] then none else hexNumber? 0 name) false cs := by
  have read := readHexBrace_named flags none named ((name ++ '\x7d' :: cs).length + 1)
    (by rw [List.length_append]; omega) cs
  unfold readCodePoint
  rw [next_openBrace]
  simp only
  rw [read]
  by_cases empty : name = []
  · rw [if_pos ⟨rfl, empty⟩, if_pos empty]
    rfl
  · rw [if_neg fun both => empty both.2, if_neg empty, Option.getD_none]
    cases hexNumber? 0 name <;> rfl

/-! ## Names of properties -/

theorem readPropertyName_named (flags : Flags) (before : List Char) {name : List Char}
    (named : ∀ c ∈ name, isNameChar c = true) (fuel : Nat) (enough : name.length < fuel)
    (cs : List Char) :
    readPropertyName flags before fuel (name ++ '\x7d' :: cs) =
      .ok (before.reverse ++ name, cs) := by
  induction name generalizing before fuel with
  | nil =>
      cases fuel with
      | zero => exact absurd enough (Nat.not_lt_zero _)
      | succ fuel =>
          unfold readPropertyName
          rw [List.nil_append, next_closeBrace]
          simp
  | cons c name ih =>
      cases fuel with
      | zero => exact absurd enough (Nat.not_lt_zero _)
      | succ fuel =>
          rw [List.forall_mem_cons] at named
          unfold readPropertyName
          rw [List.cons_append, next_of_named flags named.1]
          dsimp only
          rw [if_neg (ne_of_named named.1 (by decide)),
            ih _ named.2 fuel (Nat.lt_of_succ_lt_succ enough)]
          simp

theorem readProperty_named (flags : Flags) (negated : Bool) {c : Char}
    (named : isNameChar c = true) (cs : List Char) :
    readProperty flags negated (c :: cs) =
      (propertySet flags negated [c]).map fun s => (.set s, cs) := by
  have noBackslash : c ≠ '\\' := ne_of_named named (by decide)
  have noBrace : c ≠ '\x7b' := ne_of_named named (by decide)
  unfold readProperty
  rw [next_of_named flags named]
  simp only
  cases propertySet flags negated [c] <;> rfl

theorem readProperty_braced (flags : Flags) (negated : Bool) {name : List Char}
    (named : ∀ c ∈ name, isNameChar c = true) (cs : List Char) :
    readProperty flags negated ('\x7b' :: (name ++ '\x7d' :: cs)) =
      (propertySet flags negated name).map fun s => (.set s, cs) := by
  have read := readPropertyName_named flags [] named ((name ++ '\x7d' :: cs).length + 1)
    (by rw [List.length_append]; omega) cs
  unfold readProperty
  rw [next_openBrace]
  simp only
  rw [read]
  change (propertySet flags negated name >>= fun s => .ok (Escape.set s, cs)) = _
  cases propertySet flags negated name <;> rfl

/-- The characters of a name that count are alike. -/
theorem normal_congr {name name' : List Char} (alike : SameName name name') :
    (name.filter fun c => c ≠ ' ' && c ≠ '_' && c ≠ '-' && c.toNat < 0x80).map Char.toLower =
      (name'.filter fun c => c ≠ ' ' && c ≠ '_' && c ≠ '-' && c.toNat < 0x80).map Char.toLower := by
  induction alike with
  | nil => rfl
  | cons first _ ih =>
      have small := first.congr (f := Char.toLower) (by decide)
      have kept := first.congr (f := fun c => c ≠ ' ' && c ≠ '_' && c ≠ '-' && c.toNat < 0x80)
        (by decide)
      rw [List.filter_cons, List.filter_cons, kept]
      split
      · rw [List.map_cons, List.map_cons, small, ih]
      · exact ih

theorem normalName_congr {name name' : List Char} (alike : SameName name name') :
    normalName name = normalName name' := by
  unfold normalName
  cases alike with
  | nil => rfl
  | cons first rest =>
      cases rest with
      | nil => simp only [normal_congr (.cons first .nil)]
      | cons second rest =>
          simp only [normal_congr rest, normal_congr (.cons first (.cons second rest)),
            normal_congr (.cons first (.cons second .nil))]

theorem findIdx?_congr {α : Type} {r : α → α → Prop} {p : α → Bool} {xs ys : List α}
    (alike : List.Forall₂ r xs ys) (same : ∀ {x y}, r x y → p x = p y) :
    xs.findIdx? p = ys.findIdx? p := by
  induction alike with
  | nil => rfl
  | cons first _ ih => rw [List.findIdx?_cons, List.findIdx?_cons, same first, ih]

theorem forall₂_zip_zip {α : Type} {r : α → α → Prop} {xs ys xs' ys' : List α}
    (left : List.Forall₂ r xs ys) (right : List.Forall₂ r xs' ys') :
    List.Forall₂ (fun x y => r x.1 y.1 ∧ r x.2 y.2) (xs.zip xs') (ys.zip ys') := by
  induction left generalizing xs' ys' with
  | nil => exact .nil
  | cons first _ ih =>
      cases right with
      | nil => exact .nil
      | cons second rest => exact .cons ⟨first, second⟩ (ih rest)

theorem separator?_congr {name name' : List Char} (alike : SameName name name') :
    separator? name = separator? name' := by
  have pairs := findIdx?_congr (p := (· == ('!', '=')))
    (forall₂_zip_zip alike (List.forall₂_drop 1 alike)) fun {x y} ⟨first, second⟩ =>
      congrArg₂ and (first.congr (f := (· == '!')) (by decide))
        (second.congr (f := (· == '=')) (by decide))
  unfold separator?
  rw [pairs, findIdx?_congr alike fun same => same.congr (f := (· == ':')) (by decide),
    findIdx?_congr alike fun same => same.congr (f := (· == '=')) (by decide)]

theorem propertySet_congr {name name' : List Char} (alike : SameName name name') (flags : Flags)
    (negated : Bool) : propertySet flags negated name = propertySet flags negated name' := by
  unfold propertySet
  rw [separator?_congr alike]
  cases separator? name' with
  | none => rw [namedProperty?, namedProperty?, normalName_congr alike]
  | some place =>
      obtain ⟨i, length⟩ := place
      dsimp only
      rw [propertyValue?, propertyValue?, normalName_congr (List.forall₂_take _ alike),
        normalName_congr (List.forall₂_drop _ alike)]

end QueryRegression.Regex
