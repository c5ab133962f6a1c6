import QueryRegression.Proofs.PatternSpelling

/-!
# Repetitions and groups in respelled patterns

Of two patterns that differ in the case of names, a reader fails with one fault, or it reads the
same and leaves texts that again differ in the case of names only. `Agree` says this of two
readings, and it passes through the steps of a reader. This module is about repetitions and the
beginnings of groups, which have no names in them: a backslash is a fault there, or it ends what is
read.
-/

namespace QueryRegression.Regex

open Text

variable {α β : Type}

/-! ## Readings that agree -/

/-- Two readings agree: both fail, with one fault, or both have a result, and these are related. -/
inductive Agree (r : α → α → Prop) : Except Fault α → Except Fault α → Prop
  | error (fault : Fault) : Agree r (.error fault) (.error fault)
  | ok {a b : α} (related : r a b) : Agree r (.ok a) (.ok b)

/-- Two results are alike: what was read is equal, and the texts behind it are alike. -/
def AlikeRest (a b : α × List Char) : Prop := a.1 = b.1 ∧ Respelled false a.2 b.2

namespace Agree

variable {r : α → α → Prop} {s : β → β → Prop}

theorem refl (same : ∀ a, r a a) (result : Except Fault α) : Agree r result result := by
  cases result with
  | error fault => exact .error fault
  | ok a => exact .ok (same a)

theorem rest_refl (result : Except Fault (α × List Char)) : Agree AlikeRest result result :=
  refl (fun a => ⟨rfl, .same _ a.2⟩) result

theorem bind {x y : Except Fault α} {f g : α → Except Fault β} (first : Agree r x y)
    (rest : ∀ {a b}, r a b → Agree s (f a) (g b)) : Agree s (x >>= f) (y >>= g) := by
  cases first with
  | error fault => exact .error fault
  | ok related => exact rest related

/-- Something is read, and then the texts behind it. -/
theorem bind_rest {x y : Except Fault (α × List Char)} {f g : α × List Char → Except Fault β}
    (first : Agree AlikeRest x y)
    (rest : ∀ a {cs ds}, Respelled false cs ds → Agree s (f (a, cs)) (g (a, ds))) :
    Agree s (x >>= f) (y >>= g) := by
  refine first.bind fun {a b} related => ?_
  obtain ⟨value, cs⟩ := a
  obtain ⟨value', ds⟩ := b
  obtain ⟨rfl, alike⟩ := related
  exact rest value alike

/-- The same is computed in both readings. -/
theorem bind_same {x : Except Fault α} {f g : α → Except Fault β}
    (rest : ∀ a, Agree s (f a) (g a)) : Agree s (x >>= f) (x >>= g) := by
  cases x with
  | error fault => exact .error fault
  | ok a => exact rest a

theorem eq {x y : Except Fault α} (agree : Agree Eq x y) : x = y := by
  cases agree with
  | error => rfl
  | ok same => rw [same]

end Agree

section Readers

variable {cs ds : List Char} (alike : Respelled false cs ds)
include alike

/-! ## Repetitions -/

theorem dropBlanks_alike : Respelled false (cs.dropWhile isBlank) (ds.dropWhile isBlank) := by
  generalize shape : false = escaped at alike
  induction alike with
  | same => exact .same _ _
  | plain plain rest ih =>
      rw [List.dropWhile_cons, List.dropWhile_cons]
      split
      · exact ih rfl
      · exact .plain plain rest
  | backslash rest => exact .backslash rest
  | escaped | named | braced => cases shape

theorem readCount_alike (flags : Flags) (value : Option Nat) (fuel : Nat) :
    AlikeRest (readCount flags value fuel cs) (readCount flags value fuel ds) := by
  induction fuel generalizing value cs ds with
  | zero => exact ⟨rfl, alike⟩
  | succ fuel ih =>
      rcases alike.cases_head with rfl | ⟨c, cs', ds', rfl, rfl, rest⟩
      · exact ⟨rfl, .same _ _⟩
      · rw [readCount, readCount]
        split
        next digit =>
          have plain : c ≠ '\\' := by
            rintro rfl
            exact absurd digit (by decide)
          exact ih ((rest.tail_of_ne plain).next flags) _
        next => exact ⟨rfl, dropBlanks_alike alike⟩

theorem readBound_alike (flags : Flags) :
    Agree AlikeRest (readBound flags cs) (readBound flags ds) := by
  have read := readCount_alike (dropBlanks_alike alike) flags none (cs.dropWhile isBlank).length
  unfold readBound
  dsimp only
  rw [← (dropBlanks_alike alike).length_eq]
  generalize readCount flags none _ (cs.dropWhile isBlank) = first at read
  generalize readCount flags none _ (ds.dropWhile isBlank) = second at read
  obtain ⟨value, rest⟩ := first
  obtain ⟨value', rest'⟩ := second
  obtain ⟨rfl : value = value', alike : Respelled false rest rest'⟩ := read
  cases value with
  | none => exact .error _
  | some n =>
      dsimp only
      split
      · exact .ok ⟨rfl, alike⟩
      · exact .error _

/-- Two results for bounds are alike. -/
def AlikeBounds (a b : Nat × Option Nat × List Char) : Prop := a.1 = b.1 ∧ AlikeRest a.2 b.2

/-- The brace behind bounds is read alike. -/
theorem closing_alike (flags : Flags) (least : Nat) (most : Option Nat) :
    let closing (cs : List Char) : Except Fault (Nat × Option Nat × List Char) :=
      match cs with
      | '\x7d' :: rest =>
        if most.all (least ≤ ·) then .ok (least, most, flags.next rest)
        else .error .invalidRepetition
      | _ => .error .invalidRepetition
    Agree AlikeBounds (closing cs) (closing ds) := by
  dsimp only
  rcases alike.cases_head with rfl | ⟨c, cs, ds, rfl, rfl, rest⟩
  · exact .refl (fun _ => ⟨rfl, rfl, .same _ _⟩) _
  by_cases brace : c = '\x7d'
  · subst brace
    simp only
    split
    · exact .ok ⟨rfl, rfl, Respelled.next flags rest⟩
    · exact .error _
  · simp only [List.cons.injEq, brace, false_and, imp_self, implies_true]
    exact .error _

theorem readBounds_alike (flags : Flags) :
    Agree AlikeBounds (readBounds flags cs) (readBounds flags ds) := by
  have same : ∀ result, Agree AlikeBounds result result := .refl fun _ => ⟨rfl, rfl, .same _ _⟩
  refine .bind_rest (readBound_alike (alike.next flags) flags) fun least cs ds alike => ?_
  dsimp only
  rcases alike.cases_head with rfl | ⟨c, cs, ds, rfl, rfl, rest⟩
  · exact same _
  by_cases comma : c = ','
  case neg =>
    simp only [List.cons.injEq, comma, false_and, imp_self, implies_true]
    exact closing_alike alike flags least (some least)
  subst comma
  have after := Respelled.next flags rest
  simp only
  generalize flags.next cs = cs at after
  generalize flags.next ds = ds at after
  rcases after.cases_head with equal | ⟨c, cs, ds, rfl, rfl, -⟩
  · rw [equal]
    exact same _
  by_cases brace : c = '\x7d'
  · subst brace
    exact closing_alike after flags least none
  · simp only [List.cons.injEq, brace, false_and, imp_self, implies_true]
    exact .bind_rest (readBound_alike after flags) fun most _ _ alike =>
      closing_alike alike flags least (some most)

theorem skipLazy_alike : Respelled false (skipLazy cs) (skipLazy ds) := by
  rcases alike.cases_head with rfl | ⟨c, cs, ds, rfl, rfl, rest⟩
  · exact .same _ _
  by_cases lazy : c = '?'
  · subst lazy
    exact rest
  · rw [skipLazy, skipLazy]
    · exact alike
    · simp [lazy]
    · simp [lazy]

/-! ## Groups -/

theorem readName_alike : Agree AlikeRest (readName cs) (readName ds) := by
  have refused : ∀ {cs : List Char}, '\\' ∈ cs.takeWhile (· ≠ '>') →
      readName cs = .error .invalidName := by
    intro cs mem
    unfold readName
    dsimp only
    split
    next c more _ rest name _ =>
      rw [name, List.mem_cons] at mem
      rw [if_neg]
      rw [Bool.and_eq_true, List.all_eq_true]
      rintro ⟨first, others⟩
      rcases mem with rfl | mem
      · exact absurd first (by decide +kernel)
      · exact absurd (others _ mem) (by decide +kernel)
    next => rfl
  rcases alike.takeWhile_ne (by decide : '>' ≠ '\\') with ⟨equal, after⟩ | ⟨left, right⟩
  · unfold readName
    rw [equal]
    rcases after.cases_head with same | ⟨c, cs', ds', left, right, rest⟩
    · rw [same]
      exact .rest_refl _
    · have stop := List.head?_dropWhile_not (· ≠ '>') cs
      rw [left] at stop
      have rest := rest.tail_of_ne (by rintro rfl; simp at stop)
      rw [left, right]
      generalize ds.takeWhile _ = name
      cases name with
      | nil => exact .error _
      | cons first name =>
          dsimp only
          split
          · exact .ok ⟨rfl, rest⟩
          · exact .error _
  · rw [refused left, refused right]
    exact .error _

/-- After flags, texts alike begin with one sign that is no backslash. -/
theorem readFlags_alike (flags : Flags) (seen : List Char) (sign : Option Bool) :
    Agree (fun a b => a.1 = b.1 ∧ ∃ c cs ds, a.2 = c :: cs ∧ b.2 = c :: ds ∧ Respelled false cs ds)
      (readFlags flags seen sign cs) (readFlags flags seen sign ds) := by
  induction cs generalizing ds flags seen sign with
  | nil =>
      rw [List.eq_nil_of_length_eq_zero alike.length_eq.symm]
      exact .error _
  | cons c cs ih =>
      obtain ⟨ds, rfl, rest⟩ := alike.cons_left
      by_cases backslash : c = '\\'
      · subst backslash
        simp only [readFlags]
        exact .error _
      have rest := rest.tail_of_ne backslash
      rw [readFlags, readFlags]
      split
      · split
        · exact .error _
        · exact .ok ⟨rfl, c, cs, ds, rfl, rfl, rest⟩
      · split
        · split
          · exact .error _
          · exact ih rest _ _ _
        · split
          · exact ih rest _ _ _
          · exact .error _

theorem readNewName_alike (flags : Flags) (names : List (List Char)) :
    Agree AlikeRest (readNewName flags names cs) (readNewName flags names ds) := by
  refine .bind_rest (readName_alike alike) fun name _ _ alike => ?_
  dsimp only
  split
  · exact .error _
  · exact .ok ⟨rfl, alike⟩

/-- Flags and the sign behind them are read alike. -/
theorem readSetting_alike (flags : Flags) (names : List (List Char)) :
    let setting (cs : List Char) : Except Fault (GroupOpening × List Char) := do
      match ← readFlags flags [] none cs with
      | (flags, ')' :: rest) => return (.setting flags, rest)
      | (flags, _ :: rest) => return (.content flags names, rest)
      | (_, []) => throw .invalidFlag
    Agree AlikeRest (setting cs) (setting ds) := by
  refine (readFlags_alike alike flags [] none).bind fun {a b} related => ?_
  obtain ⟨flags, rest⟩ := a
  obtain ⟨flags', rest'⟩ := b
  obtain ⟨rfl : flags = flags', c, cs, ds, rfl : rest = c :: cs, rfl : rest' = c :: ds, alike⟩ :=
    related
  by_cases closed : c = ')'
  · subst closed
    exact .ok ⟨rfl, alike⟩
  · simp only
    exact .ok ⟨rfl, alike⟩

theorem readOpening_alike (flags : Flags) (names : List (List Char)) :
    Agree AlikeRest (readOpening flags names cs) (readOpening flags names ds) := by
  have alike := alike.next flags
  unfold readOpening
  generalize flags.next cs = cs at alike
  generalize flags.next ds = ds at alike
  rcases alike.cases_head with rfl | ⟨c, cs, ds, rfl, rfl, rest⟩
  · exact .rest_refl _
  by_cases question : c = '?'
  case neg =>
    simp only [List.cons.injEq, question, false_and, imp_self, implies_true]
    exact .ok ⟨rfl, alike⟩
  subst question
  replace alike : Respelled false cs ds := rest
  clear rest
  rcases alike.cases_head with rfl | ⟨c, cs, ds, rfl, rfl, rest⟩
  · exact .rest_refl _
  by_cases ahead : c = '=' ∨ c = '!' ∨ c = ')'
  · rcases ahead with rfl | rfl | rfl <;> exact .error _
  simp only [not_or] at ahead
  obtain ⟨notEqual, notBang, notClosed⟩ := ahead
  by_cases angle : c = '<'
  · subst angle
    replace alike : Respelled false cs ds := rest
    clear rest
    rcases alike.cases_head with rfl | ⟨c, cs, ds, rfl, rfl, rest⟩
    · exact .rest_refl _
    by_cases behind : c = '=' ∨ c = '!'
    · rcases behind with rfl | rfl <;> exact .error _
    · simp only [not_or] at behind
      simp only [List.cons.injEq, behind, false_and, imp_self, implies_true]
      exact readNewName_alike alike flags names
  by_cases capital : c = 'P'
  case neg =>
    simp only [List.cons.injEq, notEqual, notBang, notClosed, angle, capital, false_and, imp_self,
      implies_true]
    exact readSetting_alike alike flags names
  subst capital
  rcases Respelled.cases_head rest with equal | ⟨c, cs, ds, rfl, rfl, behind⟩
  · rw [equal]
    exact .rest_refl _
  by_cases angle : c = '<'
  · subst angle
    exact readNewName_alike behind flags names
  · simp only [List.cons.injEq, Char.reduceEq, angle, false_and, and_false, imp_self,
      implies_true]
    exact readSetting_alike alike flags names

end Readers

end QueryRegression.Regex
