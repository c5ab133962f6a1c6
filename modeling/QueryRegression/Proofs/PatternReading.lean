import QueryRegression.Proofs.PatternSearch
import QueryRegression.Regex.Parser

/-!
# Patterns that are read

Every pattern that is read from a text is formed: only bounds of repetition could spoil it, and they
are compared when they are read. So `Regex.search_iff` applies to every pattern that is read. The
proof goes through the readers step by step; `Yields` says what holds of a result if there is one.
-/

namespace QueryRegression.Regex

variable {α β : Type}

/-- If a reader has a result, the result has the property. -/
def Yields (p : α → Prop) (result : Except Fault α) : Prop := ∀ a, result = .ok a → p a

namespace Yields

variable {p : α → Prop} {q : β → Prop}

theorem ok {a : α} (holds : p a) : Yields p (.ok a) := by
  rintro _ ⟨⟩
  exact holds

theorem error (fault : Fault) : Yields p (.error fault) := nofun

theorem bind {result : Except Fault α} {f : α → Except Fault β} (first : Yields p result)
    (rest : ∀ a, p a → Yields q (f a)) : Yields q (result >>= f) := by
  cases result with
  | error fault => exact error fault
  | ok a => exact rest a (first a rfl)

theorem trivial (result : Except Fault α) : Yields (fun _ => True) result := fun _ _ => True.intro

end Yields

/-- The pattern of an item, if it has one, is formed. -/
def Piece.IsFormed (piece : Piece) : Prop := ∀ r, piece.regex? = some r → r.IsFormed

theorem sequence_isFormed {items : List Piece} (formed : ∀ item ∈ items, item.IsFormed) :
    (sequence items).1.IsFormed := by
  have regexes : ∀ r ∈ items.filterMap (·.regex?), r.IsFormed := by
    intro r mem
    obtain ⟨item, mem, found⟩ := List.mem_filterMap.mp mem
    exact formed item mem r found
  unfold sequence
  dsimp only
  split
  · exact True.intro
  next last before found =>
    rw [found, List.forall_mem_cons] at regexes
    exact List.foldlRecOn before _ regexes.1 fun after afterFormed item mem =>
      ⟨regexes.2 item mem, afterFormed⟩

theorem alternatives_isFormed {branches : List (Regex × Nat)}
    (formed : ∀ branch ∈ branches, branch.1.IsFormed) : (alternatives branches).1.IsFormed := by
  unfold alternatives
  split
  · exact True.intro
  next one => exact formed one (List.mem_singleton.mpr rfl)
  next last before _ =>
    rw [List.forall_mem_cons] at formed
    exact List.foldlRecOn before _ formed.1 fun after afterFormed branch mem =>
      ⟨formed.2 branch mem, afterFormed⟩

theorem literal_isFormed (flags : Flags) (c : Char) (byte : Bool) :
    Yields Regex.IsFormed (flags.literal c byte) := by
  unfold Flags.literal
  split
  · exact .error _
  · split <;> exact .ok True.intro

/-- The brace behind bounds is read only if they are in order. -/
theorem closing_ordered (flags : Flags) (least : Nat) (most : Option Nat) (cs : List Char) :
    Yields (fun bounds => ∀ m, bounds.2.1 = some m → bounds.1 ≤ m)
      (match cs with
        | '\x7d' :: rest =>
          if most.all (least ≤ ·) then .ok (least, most, flags.next rest)
          else .error .invalidRepetition
        | _ => .error .invalidRepetition) := by
  split
  · split
    next ordered =>
      refine .ok fun m (found : most = some m) => ?_
      rw [found] at ordered
      simpa using ordered
    next => exact .error _
  · exact .error _

theorem readBounds_ordered (flags : Flags) (cs : List Char) :
    Yields (fun bounds => ∀ m, bounds.2.1 = some m → bounds.1 ≤ m) (readBounds flags cs) := by
  refine .bind (.trivial _) fun lower _ => ?_
  dsimp only
  split
  · split
    next after _ => exact closing_ordered flags lower.1 none ('\x7d' :: after)
    · exact .bind (.trivial _) fun upper _ => closing_ordered flags _ (some upper.1) _
  · exact closing_ordered flags _ (some lower.1) _

theorem repeatLast_isFormed {least : Nat} {most : Option Nat} {items : List Piece}
    (ordered : ∀ m, most = some m → least ≤ m) (formed : ∀ item ∈ items, item.IsFormed) :
    Yields (fun items => ∀ item ∈ items, item.IsFormed) (repeatLast least most items) := by
  unfold repeatLast
  split
  next regex height before =>
    rw [List.forall_mem_cons] at formed
    refine .ok (List.forall_mem_cons.mpr ⟨?_, formed.2⟩)
    rintro r ⟨⟩
    exact ⟨formed.1 regex rfl, ordered⟩
  next => exact .error _

theorem piece_isFormed {regex : Regex} (formed : regex.IsFormed) (height : Nat) :
    (⟨some regex, height⟩ : Piece).IsFormed := by
  rintro r ⟨⟩
  exact formed

theorem close_isFormed {names : List (List Char)} {branches : List (Regex × Nat)}
    {items : List Piece} (branchesFormed : ∀ branch ∈ branches, branch.1.IsFormed)
    (itemsFormed : ∀ item ∈ items, item.IsFormed) (rest : List Char) :
    Yields (·.regex.IsFormed) (readItems.close names branches items rest) :=
  .ok (alternatives_isFormed
    (List.forall_mem_cons.mpr ⟨sequence_isFormed itemsFormed, branchesFormed⟩))

theorem readItems_isFormed (fuel : Nat) {flags : Flags} {names : List (List Char)}
    {branches : List (Regex × Nat)} {items : List Piece} {cs : List Char}
    (branchesFormed : ∀ branch ∈ branches, branch.1.IsFormed)
    (itemsFormed : ∀ item ∈ items, item.IsFormed) :
    Yields (·.regex.IsFormed) (readItems fuel flags names branches items cs) := by
  induction fuel generalizing flags names branches items cs with
  | zero => exact .error _
  | succ fuel ih =>
      have push : ∀ {names cs height} {regex : Regex}, regex.IsFormed →
          Yields (·.regex.IsFormed)
            (readItems fuel flags names branches (⟨some regex, height⟩ :: items) cs) :=
        fun formed => ih branchesFormed
          (List.forall_mem_cons.mpr ⟨piece_isFormed formed _, itemsFormed⟩)
      have repeated : ∀ {least most cs}, (∀ m, most = some m → least ≤ m) →
          Yields (·.regex.IsFormed) (do
            readItems fuel flags names branches (← repeatLast least most items) cs) :=
        fun ordered => .bind (repeatLast_isFormed ordered itemsFormed) fun _ formed =>
          ih branchesFormed formed
      unfold readItems
      dsimp only
      split
      · exact close_isFormed branchesFormed itemsFormed _
      · exact close_isFormed branchesFormed itemsFormed _
      · exact ih (List.forall_mem_cons.mpr ⟨sequence_isFormed itemsFormed, branchesFormed⟩) nofun
      · refine .bind (.trivial _) fun opening _ => ?_
        split
        · exact ih branchesFormed (List.forall_mem_cons.mpr ⟨nofun, itemsFormed⟩)
        · refine .bind (ih nofun nofun) fun reading formed => ?_
          split
          · exact push formed
          · exact .error _
      · exact .bind (.trivial _) fun _ _ => push True.intro
      · exact repeated nofun
      · exact repeated nofun
      · exact repeated fun _ _ => Nat.zero_le _
      · exact .bind (readBounds_ordered _ _) fun _ ordered => repeated ordered
      · exact .bind (.trivial _) fun _ _ => push True.intro
      · exact push True.intro
      · exact push True.intro
      · refine .bind (.trivial _) fun escape _ => ?_
        split
        · exact .bind (literal_isFormed _ _ _) fun _ formed => push formed
        · exact push True.intro
        · exact push True.intro
      · exact .bind (literal_isFormed _ _ _) fun _ formed => push formed

/-- A text is a pattern if the whole of it is read and the limits are kept. -/
theorem ofChars_eq_ok_iff {limits : Limits} {dotAll : Bool} {cs : List Char} {r : Regex} :
    ofChars limits dotAll cs = .ok r ↔
      ∃ reading, readItems (cs.length + 1) (.initial dotAll) [] [] [] cs = .ok reading ∧
        reading.rest.isEmpty = true ∧ reading.height ≤ limits.height ∧ reading.regex = r ∧
        limits.hasRoom cs r = true := by
  unfold ofChars
  cases readItems (cs.length + 1) (.initial dotAll) [] [] [] cs with
  | error fault => exact ⟨nofun, nofun⟩
  | ok reading =>
      simp only [bind, Except.bind, Bool.not_eq_true', Except.ok.injEq, exists_eq_left']
      split
      next unread => simp [unread]
      next closed =>
        split
        next deep => simp [Nat.not_le.mpr deep]
        next flat =>
          rw [Bool.not_eq_false] at closed
          split
          next full =>
            refine ⟨nofun, ?_⟩
            rintro ⟨-, -, rfl, room⟩
            cases full.symm.trans room
          next room =>
            rw [Bool.not_eq_false] at room
            constructor
            · rintro ⟨⟩
              exact ⟨closed, Nat.not_lt.mp flat, rfl, room⟩
            · rintro ⟨-, -, rfl, -⟩
              rfl

/-- Every pattern that a text is read as is formed. -/
theorem ofChars_isFormed {limits : Limits} {dotAll : Bool} {cs : List Char} {r : Regex}
    (read : ofChars limits dotAll cs = .ok r) : r.IsFormed := by
  obtain ⟨reading, found, -, -, rfl, -⟩ := ofChars_eq_ok_iff.mp read
  exact readItems_isFormed (cs.length + 1) (List.forall_mem_nil _) (List.forall_mem_nil _)
    reading found

end QueryRegression.Regex
