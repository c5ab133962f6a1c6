import QueryRegression.Proofs.PatternReading
import QueryRegression.Proofs.RespelledGroups

/-!
# Respelled patterns

Patterns that differ in the case of names only are read as one pattern:
`Regex.ofChars_of_respelled`. Its core is `Regex.readEscape_alike`, since a name stands behind a
backslash. All other readers agree because they pass over names as a whole.
-/

namespace QueryRegression.Regex

open Text

/-! ## Escapes -/

section Escapes

variable {cs ds : List Char} (alike : Respelled false cs ds)
include alike

theorem codePoint_alike (value : Option Nat) (byte : Bool) :
    Agree AlikeRest (codePoint value byte cs) (codePoint value byte ds) := by
  unfold codePoint
  split
  · exact .ok ⟨rfl, alike⟩
  · exact .error _

theorem readEdgeName_alike (flags : Flags) (name : List Char) (fuel : Nat) :
    Agree AlikeRest (readEdgeName flags name fuel cs) (readEdgeName flags name fuel ds) := by
  induction fuel generalizing name cs ds with
  | zero => exact .error _
  | succ fuel ih =>
      rcases alike.cases_head with rfl | ⟨c, cs, ds, rfl, rfl, rest⟩
      · exact .rest_refl _
      rw [readEdgeName, readEdgeName]
      split
      next edge =>
        exact ih ((rest.tail_of_ne (by rintro rfl; exact absurd edge (by decide))).next flags) _
      next =>
        split
        next brace =>
          exact .ok ⟨rfl, rest.tail_of_ne (by rintro rfl; exact absurd brace (by decide))⟩
        next => exact .error _

theorem readEdge_alike (flags : Flags) :
    Agree AlikeRest (readEdge flags cs) (readEdge flags ds) := by
  rcases alike.cases_head with rfl | ⟨c, cs, ds, rfl, rfl, rest⟩
  · exact .rest_refl _
  by_cases brace : c = '\x7b'
  case neg =>
    rw [readEdge, readEdge]
    · exact .ok ⟨rfl, alike⟩
    · simp [brace]
    · simp [brace]
  subst brace
  rw [readEdge, readEdge]
  have after := Respelled.next flags rest
  generalize flags.next cs = more at after
  generalize flags.next ds = more' at after
  cases more with
  | nil =>
      cases after
      exact .error _
  | cons c more =>
      obtain ⟨more', rfl, inner⟩ := after.cons_left
      dsimp only
      split
      · exact .ok ⟨rfl, alike⟩
      · rw [inner.length_eq]
        refine .bind_rest (readEdgeName_alike after _ _ _) fun name _ _ alike => ?_
        dsimp only
        split
        case h_5 => exact .error _
        all_goals exact .ok ⟨rfl, alike⟩

end Escapes

section Names

variable {name name' cs ds : List Char} (alike : SameName name name') (rest : Respelled false cs ds)
include alike rest

theorem readCodePoint_named_alike (flags : Flags) (long : name ≠ []) :
    Agree AlikeRest (readCodePoint flags name.length (name ++ cs))
      (readCodePoint flags name.length (name' ++ ds)) := by
  have long' : name' ≠ [] := by
    rintro rfl
    cases alike
    exact long rfl
  rw [readCodePoint_named flags long alike.named.1, alike.length_eq,
    readCodePoint_named flags long' alike.named.2, hexNumber?_congr alike]
  exact codePoint_alike rest _ _

theorem readCodePoint_braced_alike (flags : Flags) (digits : Nat) :
    Agree AlikeRest (readCodePoint flags digits ('\x7b' :: (name ++ '\x7d' :: cs)))
      (readCodePoint flags digits ('\x7b' :: (name' ++ '\x7d' :: ds))) := by
  rw [readCodePoint_braced flags digits alike.named.1,
    readCodePoint_braced flags digits alike.named.2]
  cases alike with
  | nil => exact codePoint_alike rest _ _
  | cons first more =>
      rw [if_neg (List.cons_ne_nil _ _), if_neg (List.cons_ne_nil _ _),
        hexNumber?_congr (.cons first more)]
      exact codePoint_alike rest _ _

theorem readProperty_braced_alike (flags : Flags) (negated : Bool) :
    Agree AlikeRest (readProperty flags negated ('\x7b' :: (name ++ '\x7d' :: cs)))
      (readProperty flags negated ('\x7b' :: (name' ++ '\x7d' :: ds))) := by
  rw [readProperty_braced flags negated alike.named.1,
    readProperty_braced flags negated alike.named.2, propertySet_congr alike]
  cases propertySet flags negated name' with
  | error fault => exact .error fault
  | ok s => exact .ok ⟨rfl, rest⟩

end Names

theorem readProperty_named_alike {c d : Char} {cs ds : List Char} (alike : SameLetter c d)
    (rest : Respelled false cs ds) (flags : Flags) (negated : Bool) :
    Agree AlikeRest (readProperty flags negated (c :: cs))
      (readProperty flags negated (d :: ds)) := by
  rw [readProperty_named flags negated alike.named.1,
    readProperty_named flags negated alike.named.2, propertySet_congr (.cons alike .nil)]
  cases propertySet flags negated [d] with
  | error fault => exact .error fault
  | ok s => exact .ok ⟨rfl, rest⟩

/-- What stands behind a backslash is read alike. -/
theorem readEscape_alike {cs ds : List Char} (alike : Respelled true cs ds) (flags : Flags) :
    Agree AlikeRest (readEscape flags cs) (readEscape flags ds) := by
  cases alike with
  | same => exact .rest_refl _
  | @escaped c cs ds nameless rest =>
      by_cases digit : c.isDigit
      · unfold readEscape
        dsimp only
        rw [if_pos digit, if_pos digit]
        exact .error _
      by_cases letter : c ∈ ['d', 'D', 's', 'S', 'w', 'W', 'A', 'z', 'b', 'B', '<', '>']
      · simp only [List.mem_cons, List.not_mem_nil, or_false] at letter
        rcases letter with rfl | rfl | rfl | rfl | rfl | rfl | rfl | rfl | rfl | rfl | rfl | rfl
        · exact .bind_same fun _ => .ok ⟨rfl, rest⟩
        · exact .bind_same fun _ => .ok ⟨rfl, rest⟩
        · exact .bind_same fun _ => .ok ⟨rfl, rest⟩
        · exact .bind_same fun _ => .ok ⟨rfl, rest⟩
        · exact .bind_same fun _ => .ok ⟨rfl, rest⟩
        · exact .bind_same fun _ => .ok ⟨rfl, rest⟩
        · exact .ok ⟨rfl, rest⟩
        · exact .ok ⟨rfl, rest⟩
        · exact .bind_rest (readEdge_alike rest flags) fun edge _ _ alike => .ok ⟨rfl, alike⟩
        · change Agree AlikeRest (if flags.unicode then _ else _) (if flags.unicode then _ else _)
          split
          · exact .ok ⟨rfl, rest⟩
          · exact .error _
        · exact .ok ⟨rfl, rest⟩
        · exact .ok ⟨rfl, rest⟩
      simp only [List.mem_cons, List.not_mem_nil, or_false, not_or] at letter
      have plain : c ≠ 'x' ∧ c ≠ 'u' ∧ c ≠ 'U' ∧ c ≠ 'p' ∧ c ≠ 'P' := by
        refine ⟨?_, ?_, ?_, ?_, ?_⟩ <;> rintro rfl <;> exact absurd nameless (by decide)
      unfold readEscape
      dsimp only
      rw [if_neg digit, if_neg digit]
      simp only [letter, plain, imp_self]
      split
      · exact .ok ⟨rfl, rest⟩
      · split
        · exact .ok ⟨rfl, rest⟩
        · exact .error _
  | @named c name name' cs ds long alike rest =>
      have point (digits : Nat) (long : some (digits + 1) = some name.length) :
          Agree AlikeRest (readCodePoint flags (digits + 1) (name ++ cs))
            (readCodePoint flags (digits + 1) (name' ++ ds)) := by
        rw [Option.some.inj long]
        exact readCodePoint_named_alike alike rest flags (by rintro rfl; cases long)
      have property (negated : Bool) (long : some 1 = some name.length) :
          Agree AlikeRest (readProperty flags negated (name ++ cs))
            (readProperty flags negated (name' ++ ds)) := by
        cases alike with
        | nil => cases long
        | cons first more =>
            cases more with
            | nil => exact readProperty_named_alike first rest flags negated
            | cons => cases long
      unfold nameLength? at long
      split at long
      · exact point 1 long
      · exact point 3 long
      · exact point 7 long
      · exact property false long
      · exact property true long
      · cases long
  | @braced c name name' cs ds announced alike rest =>
      unfold nameLength? at announced
      split at announced
      · exact readCodePoint_braced_alike alike rest flags 2
      · exact readCodePoint_braced_alike alike rest flags 4
      · exact readCodePoint_braced_alike alike rest flags 8
      · exact readProperty_braced_alike alike rest flags false
      · exact readProperty_braced_alike alike rest flags true
      · cases announced

/-! ## Classes -/

/-- No class is named with a backslash. -/
theorem asciiClass?_eq_none {name : List Char} (mem : '\\' ∈ name) :
    asciiClass? (.ofList name) = none := by
  unfold asciiClass?
  split
  case h_15 => rfl
  all_goals
    next same =>
      have spelt := congrArg String.toList same
      rw [String.toList_ofList] at spelt
      rw [spelt] at mem
      exact absurd mem (by decide)

/-- Two readings of a named class: there is none in both, or the same one in both. -/
def AlikeClass (a b : Option (Except Fault CharSet × List Char)) : Prop :=
  a = none ∧ b = none ∨ ∃ x y, a = some x ∧ b = some y ∧ AlikeRest x y

theorem AlikeClass.refl (a : Option (Except Fault CharSet × List Char)) : AlikeClass a a := by
  cases a with
  | none => exact .inl ⟨rfl, rfl⟩
  | some x => exact .inr ⟨x, x, rfl, rfl, rfl, .same _ _⟩

section Classes

variable {cs ds : List Char} (alike : Respelled false cs ds)
include alike

theorem readClassItem_alike (flags : Flags) :
    Agree AlikeRest (readClassItem flags cs) (readClassItem flags ds) := by
  rcases alike.cases_head with rfl | ⟨c, cs, ds, rfl, rfl, rest⟩
  · exact .rest_refl _
  by_cases backslash : c = '\\'
  · subst backslash
    exact readEscape_alike rest flags
  · rw [readClassItem, readClassItem]
    · exact .ok ⟨rfl, rest.tail_of_ne backslash⟩
    · exact backslash
    · exact backslash

theorem beginsRange_eq (flags : Flags) : beginsRange flags cs = beginsRange flags ds := by
  unfold beginsRange
  rcases (alike.next flags).cases_head with same | ⟨c, cs', ds', left, right, -⟩
  · rw [same]
  · rw [left, right]
    by_cases stop : c = ']' ∨ c = '-'
    · rcases stop with rfl | rfl <;> rfl
    · simp only [not_or] at stop
      simp only [List.cons.injEq, stop, false_and, imp_self, implies_true]

/-- An item that begins no range is read alike. -/
theorem item_alike (flags : Flags) (item : Escape) :
    let alone (cs : List Char) : Except Fault (CharSet × List Char) :=
      match item with
      | .char c _ => do return (.single (← classChar flags c), cs)
      | .set s => .ok (s, cs)
      | .assertion _ => .error .invalidClassItem
    Agree AlikeRest (alone cs) (alone ds) := by
  cases item with
  | char => exact .bind_same fun _ => .ok ⟨rfl, alike⟩
  | set => exact .ok ⟨rfl, alike⟩
  | assertion => exact .error _

theorem readClassRange_alike (flags : Flags) :
    Agree AlikeRest (readClassRange flags cs) (readClassRange flags ds) := by
  refine .bind_rest (readClassItem_alike alike flags) fun first cs ds alike => ?_
  have after := alike.next flags
  dsimp only
  generalize flags.next cs = cs at after
  generalize flags.next ds = ds at after
  rcases after.cases_head with rfl | ⟨c, cs, ds, rfl, rfl, rest⟩
  · exact .rest_refl _
  by_cases hyphen : c = '-'
  case neg =>
    simp only [List.cons.injEq, hyphen, false_and, imp_self, implies_true]
    exact item_alike after flags first
  subst hyphen
  have rest : Respelled false cs ds := rest
  simp only
  rw [beginsRange_eq rest]
  split
  · exact item_alike after flags first
  · refine .bind_rest (readClassItem_alike (rest.next flags) flags) fun last _ _ alike => ?_
    cases first <;> cases last
    case char.char =>
      dsimp only
      split
      · exact .bind_same fun _ => .bind_same fun _ => .ok ⟨rfl, alike⟩
      · exact .error _
    all_goals exact .error _

theorem leadingHyphens_alike (flags : Flags) (fuel : Nat) (state : ClassState) :
    AlikeRest (leadingHyphens flags fuel state cs) (leadingHyphens flags fuel state ds) := by
  induction fuel generalizing state cs ds with
  | zero => exact ⟨rfl, alike⟩
  | succ fuel ih =>
      rcases alike.cases_head with rfl | ⟨c, cs, ds, rfl, rfl, rest⟩
      · exact ⟨rfl, .same _ _⟩
      by_cases hyphen : c = '-'
      · subst hyphen
        exact ih (Respelled.next flags rest) _
      · rw [leadingHyphens, leadingHyphens]
        · exact ⟨rfl, alike⟩
        · simp [hyphen]
        · simp [hyphen]

/-- What may begin a class is read alike behind its negation. -/
theorem opening_alike (flags : Flags) (negated : Bool) :
    let opening (cs : List Char) : Bool × ClassState × List Char :=
      let (state, rest) := leadingHyphens flags cs.length (.start none) cs
      match state.items, rest with
      | 0, ']' :: rest => (negated, state.add ⟨.single ']'.toNat, 0⟩, rest)
      | _, _ => (negated, state, rest)
    (opening cs).1 = (opening ds).1 ∧ AlikeRest (opening cs).2 (opening ds).2 := by
  have hyphens := leadingHyphens_alike alike flags cs.length (.start none)
  dsimp only
  rw [← alike.length_eq]
  generalize leadingHyphens flags cs.length (.start none) cs = a at hyphens
  generalize leadingHyphens flags cs.length (.start none) ds = b at hyphens
  obtain ⟨state, cs⟩ := a
  obtain ⟨state', ds⟩ := b
  obtain ⟨rfl : state = state', alike : Respelled false cs ds⟩ := hyphens
  cases empty : state.items with
  | succ items => exact ⟨rfl, rfl, alike⟩
  | zero =>
      rcases alike.cases_head with rfl | ⟨c, cs, ds, rfl, rfl, rest⟩
      · exact ⟨rfl, rfl, .same _ _⟩
      by_cases bracket : c = ']'
      · subst bracket
        exact ⟨rfl, rfl, rest⟩
      · simp only [List.cons.injEq, bracket, false_and, imp_self, implies_true, true_and]
        exact ⟨rfl, alike⟩

theorem openClass_alike (flags : Flags) :
    (openClass flags cs).1 = (openClass flags ds).1 ∧
      AlikeRest (openClass flags cs).2 (openClass flags ds).2 := by
  have after := alike.next flags
  unfold openClass
  generalize flags.next cs = cs at after
  generalize flags.next ds = ds at after
  rcases after.cases_head with rfl | ⟨c, cs, ds, rfl, rfl, rest⟩
  · exact ⟨rfl, rfl, .same _ _⟩
  by_cases caret : c = '^'
  · subst caret
    exact opening_alike (Respelled.next flags rest) flags true
  · simp only [List.cons.injEq, caret, false_and, imp_self, implies_true]
    exact opening_alike after flags false

/-- The name of a class is read alike behind its negation. -/
theorem className_alike (flags : Flags) (negated : Bool) :
    let named (cs : List Char) : Option (Except Fault CharSet × List Char) :=
      match cs.dropWhile (· ≠ ':') with
      | ':' :: ']' :: after => do
        let s ← asciiClass? (.ofList (cs.takeWhile (· ≠ ':')))
        return (flags.closeClass negated s, after)
      | _ => none
    AlikeClass (named cs) (named ds) := by
  have refused : ∀ {cs : List Char}, '\\' ∈ cs.takeWhile (· ≠ ':') →
      (match cs.dropWhile (· ≠ ':') with
        | ':' :: ']' :: after => do
          let s ← asciiClass? (.ofList (cs.takeWhile (· ≠ ':')))
          return (flags.closeClass negated s, after)
        | _ => none) = none := by
    intro cs mem
    rw [asciiClass?_eq_none mem]
    split <;> rfl
  dsimp only
  rcases alike.takeWhile_ne (by decide : ':' ≠ '\\') with ⟨equal, after⟩ | ⟨left, right⟩
  · rw [equal]
    generalize asciiClass? _ = found
    generalize cs.dropWhile _ = cs at after
    generalize ds.dropWhile _ = ds at after
    rcases after.cases_head with rfl | ⟨c, cs, ds, rfl, rfl, rest⟩
    · exact .refl _
    by_cases colon : c = ':'
    case neg =>
      simp only [List.cons.injEq, colon, false_and, imp_self, implies_true]
      exact .refl _
    subst colon
    replace after : Respelled false cs ds := rest
    clear rest
    rcases after.cases_head with rfl | ⟨c, cs, ds, rfl, rfl, rest⟩
    · exact .refl _
    by_cases bracket : c = ']'
    case neg =>
      simp only [List.cons.injEq, bracket, false_and, and_false, imp_self, implies_true]
      exact .refl _
    subst bracket
    cases found with
    | none => exact .refl _
    | some s => exact .inr ⟨_, _, rfl, rfl, rfl, rest⟩
  · exact .inl ⟨refused left, refused right⟩

theorem readAsciiClass?_alike (flags : Flags) :
    AlikeClass (readAsciiClass? flags cs) (readAsciiClass? flags ds) := by
  rcases alike.cases_head with rfl | ⟨c, cs, ds, rfl, rfl, rest⟩
  · exact .refl _
  by_cases colon : c = ':'
  case neg =>
    unfold readAsciiClass?
    simp only [List.cons.injEq, colon, false_and, imp_self, implies_true]
    exact .refl _
  subst colon
  replace alike : Respelled false cs ds := rest
  clear rest
  unfold readAsciiClass?
  rcases alike.cases_head with rfl | ⟨c, cs, ds, rfl, rfl, rest⟩
  · exact .refl _
  by_cases caret : c = '^'
  · subst caret
    exact className_alike rest flags true
  · simp only [List.cons.injEq, caret, false_and, imp_self, implies_true]
    exact className_alike alike flags false

end Classes

/-- Classes and their lists are read alike. -/
theorem readClass_alike (flags : Flags) (fuel : Nat) :
    (∀ {cs ds : List Char}, Respelled false cs ds →
        Agree AlikeRest (readClass flags fuel cs) (readClass flags fuel ds)) ∧
      ∀ {cs ds : List Char} (state : ClassState), Respelled false cs ds →
        Agree AlikeRest (readClassItems flags fuel state cs)
          (readClassItems flags fuel state ds) := by
  induction fuel with
  | zero => exact ⟨fun _ => .error _, fun _ _ => .error _⟩
  | succ fuel ih =>
      obtain ⟨ihClass, ihItems⟩ := ih
      constructor
      · intro cs ds alike
        have opened := openClass_alike alike flags
        rw [readClass, readClass]
        generalize openClass flags cs = a at opened
        generalize openClass flags ds = b at opened
        obtain ⟨negated, state, cs⟩ := a
        obtain ⟨negated', state', ds⟩ := b
        obtain ⟨rfl : negated = negated', rfl : state = state', alike : Respelled false cs ds⟩ :=
          opened
        exact .bind_rest (ihItems _ alike) fun s _ _ alike => .bind_same fun _ => .ok ⟨rfl, alike⟩
      · intro cs ds state alike
        have after := alike.next flags
        unfold readClassItems
        generalize flags.next cs = cs at after
        generalize flags.next ds = ds at after
        rcases after.cases_head with rfl | ⟨c, cs, ds, rfl, rfl, rest⟩
        · exact .rest_refl _
        have ranged : Agree AlikeRest
            (readClassRange flags (c :: cs) >>= fun read =>
              readClassItems flags fuel (state.add ⟨read.1, 0⟩) read.2)
            (readClassRange flags (c :: ds) >>= fun read =>
              readClassItems flags fuel (state.add ⟨read.1, 0⟩) read.2) :=
          .bind_rest (readClassRange_alike after flags) fun _ _ _ alike => ihItems _ alike
        by_cases closed : c = ']'
        · subst closed
          exact .ok ⟨rfl, rest⟩
        by_cases opened : c = '['
        · subst opened
          have alike : Respelled false cs ds := rest
          simp only
          rcases readAsciiClass?_alike alike flags with ⟨left, right⟩ | ⟨a, b, left, right, found⟩
          · rw [left, right]
            exact .bind_rest (ihClass alike) fun _ _ _ alike => ihItems _ alike
          · obtain ⟨s, cs⟩ := a
            obtain ⟨s', ds⟩ := b
            obtain ⟨rfl : s = s', alike : Respelled false cs ds⟩ := found
            rw [left, right]
            exact .bind_same fun _ => ihItems _ alike
        by_cases sign : c = '&' ∨ c = '-' ∨ c = '~'
        case neg =>
          simp only [not_or] at sign
          simp only [List.cons.injEq, closed, opened, sign, false_and, imp_self, implies_true]
          exact ranged
        have alike := rest.tail_of_ne (by rcases sign with rfl | rfl | rfl <;> decide)
        clear rest
        rcases alike.cases_head with rfl | ⟨c', cs, ds, rfl, rfl, rest⟩
        · exact .rest_refl _
        by_cases twice : c' = c
        · subst twice
          have behind := rest.tail_of_ne (by rcases sign with rfl | rfl | rfl <;> decide)
          rcases sign with rfl | rfl | rfl <;> exact ihItems _ behind
        · rcases sign with rfl | rfl | rfl <;>
            simp only [List.cons.injEq, Char.reduceEq, twice, false_and, and_false, imp_self,
              implies_true] <;> exact ranged

/-! ## Patterns -/

/-- Two patterns that were read are alike: equal, and the texts behind them are alike. -/
def AlikeReading (a b : Reading) : Prop :=
  a.regex = b.regex ∧ a.height = b.height ∧ a.names = b.names ∧ Respelled false a.rest b.rest

theorem AlikeReading.refl (a : Reading) : AlikeReading a a := ⟨rfl, rfl, rfl, .same _ _⟩

theorem readItems_alike (fuel : Nat) (flags : Flags) (names : List (List Char))
    (branches : List (Regex × Nat)) (items : List Piece) {cs ds : List Char}
    (alike : Respelled false cs ds) :
    Agree AlikeReading (readItems fuel flags names branches items cs)
      (readItems fuel flags names branches items ds) := by
  induction fuel generalizing flags names branches items cs ds with
  | zero => exact .error _
  | succ fuel ih =>
      have after := alike.next flags
      unfold readItems
      generalize flags.next cs = cs at after
      generalize flags.next ds = ds at after
      rcases after.cases_head with rfl | ⟨c, cs, ds, rfl, rfl, rest⟩
      · exact .refl .refl _
      dsimp only
      by_cases backslash : c = '\\'
      · subst backslash
        refine .bind_rest (readEscape_alike rest flags) fun escape _ _ alike => ?_
        cases escape with
        | char => exact .bind_same fun _ => ih _ _ _ _ alike
        | set => exact ih _ _ _ _ alike
        | assertion => exact ih _ _ _ _ alike
      have alike := rest.tail_of_ne backslash
      clear rest
      by_cases closed : c = ')'
      · subst closed
        exact .ok ⟨rfl, rfl, rfl, after⟩
      by_cases special : c ∈ ['|', '(', '[', '*', '+', '?', '\x7b', '.', '^', '$']
      · simp only [List.mem_cons, List.not_mem_nil, or_false] at special
        rcases special with rfl | rfl | rfl | rfl | rfl | rfl | rfl | rfl | rfl | rfl
        · exact ih _ _ _ _ alike
        · refine .bind_rest (readOpening_alike alike flags names) fun opening _ _ alike => ?_
          cases opening with
          | setting => exact ih _ _ _ _ alike
          | content inner names =>
              refine (ih inner names [] [] alike).bind fun {a b} read => ?_
              obtain ⟨regex, height, names, cs⟩ := a
              obtain ⟨regex', height', names', ds⟩ := b
              obtain ⟨rfl : regex = regex', rfl : height = height', rfl : names = names',
                alike : Respelled false cs ds⟩ := read
              dsimp only
              rcases alike.cases_head with rfl | ⟨c, cs, ds, rfl, rfl, rest⟩
              · exact .refl .refl _
              by_cases closed : c = ')'
              · subst closed
                exact ih _ _ _ _ rest
              · simp only [List.cons.injEq, closed, false_and, imp_self, implies_true]
                exact .error _
        · simp only
          rw [alike.length_eq]
          exact .bind_rest ((readClass_alike flags _).1 alike) fun _ _ _ alike => ih _ _ _ _ alike
        · exact .bind_same fun _ => ih _ _ _ _ (skipLazy_alike alike)
        · exact .bind_same fun _ => ih _ _ _ _ (skipLazy_alike alike)
        · exact .bind_same fun _ => ih _ _ _ _ (skipLazy_alike alike)
        · refine (readBounds_alike alike flags).bind fun {a b} read => ?_
          obtain ⟨least, most, cs⟩ := a
          obtain ⟨least', most', ds⟩ := b
          obtain ⟨rfl : least = least', rfl : most = most', alike : Respelled false cs ds⟩ := read
          exact .bind_same fun _ => ih _ _ _ _ (skipLazy_alike alike)
        · exact .bind_same fun _ => ih _ _ _ _ alike
        · exact ih _ _ _ _ alike
        · exact ih _ _ _ _ alike
      · simp only [List.mem_cons, List.not_mem_nil, or_false, not_or] at special
        simp only [special, imp_self]
        exact .bind_same fun _ => ih _ _ _ _ alike

/-- Patterns that differ in the case of names are read as one pattern, if there is room for it. -/
theorem ofChars_of_respelled {limits : Limits} {dotAll : Bool} {cs ds : List Char} {r : Regex}
    (alike : Respelled false cs ds) (read : ofChars limits dotAll cs = .ok r)
    (room : limits.hasRoom ds r = true) : ofChars limits dotAll ds = .ok r := by
  rw [ofChars_eq_ok_iff] at read ⊢
  obtain ⟨reading, found, closed, flat, rfl, -⟩ := read
  have agree := readItems_alike (cs.length + 1) (.initial dotAll) [] [] [] alike
  rw [found] at agree
  rw [← alike.length_eq]
  generalize readItems _ _ _ _ _ ds = other at agree
  cases agree with
  | @ok _ reading' related =>
      obtain ⟨regex, height, -, rest⟩ := related
      refine ⟨reading', rfl, ?_, height ▸ flat, regex.symm, room⟩
      rcases rest.cases_head with same | ⟨c, cs, ds, left, -, -⟩
      · rw [← same, closed]
      · rw [left] at closed
        cases closed

end QueryRegression.Regex
