import QueryRegression.Proofs.ExceptionMessages
import QueryRegression.Proofs.SmallLetters
import QueryRegression.Test
import QueryRegression.Text.Ascii

/-!
# Queries that fix the order of their rows

`isOrderedSql` looks at the first ordering clause of a query in small letters only.

* `isOrderedSql_iff_clauseAt`: a query is ordered if a clause stands after its first character
  and none at its beginning. A clause at the beginning hides all later ones.
* Lower-casing may lengthen a text, but it makes no ordering clause and moves none to the beginning,
  so only the case of ASCII letters counts: `infix_lowercaseFrom_iff`.
-/

namespace QueryRegression

/-- The ordering clause in small letters. -/
def orderingClause : List Char := " order by ".toList

/-- An ordering clause stands in a text after so many characters. -/
def ClauseAt (text : List Char) (n : Nat) : Prop := orderingClause <+: text.drop n

/-! ## Occurrences -/

section Occurrences

variable {α : Type} {pattern text : List α}

/-- A list occurs in another one if it stands after some number of elements. -/
theorem infix_iff_exists_drop : pattern <:+: text ↔ ∃ n, pattern <+: text.drop n := by
  rw [List.infix_iff_prefix_suffix]
  constructor
  · rintro ⟨rest, starts, ends⟩
    exact ⟨text.length - rest.length, List.suffix_iff_eq_drop.mp ends ▸ starts⟩
  · rintro ⟨n, starts⟩
    exact ⟨text.drop n, starts, List.drop_suffix n text⟩

theorem infix_tail_iff_exists_drop :
    pattern <:+: text.tail ↔ ∃ n, 0 < n ∧ pattern <+: text.drop n := by
  rw [infix_iff_exists_drop]
  constructor
  · rintro ⟨n, starts⟩
    exact ⟨n + 1, Nat.succ_pos n, by rwa [← List.drop_tail]⟩
  · rintro ⟨_ | n, positive, starts⟩
    · exact absurd positive (Nat.lt_irrefl 0)
    · exact ⟨n, by rwa [List.drop_tail]⟩

/-- No occurrence begins where the first element of the pattern does not stand. -/
theorem infix_append_iff_of_not_mem {first : α} {before : List α} (apart : first ∉ before) :
    first :: pattern <:+: before ++ text ↔ first :: pattern <:+: text := by
  induction before with
  | nil => rfl
  | cons x before ih =>
      rw [List.mem_cons, not_or] at apart
      rw [List.cons_append, List.infix_cons_iff, List.cons_prefix_cons, ih apart.2]
      exact or_iff_right fun starts => apart.1 starts.1

end Occurrences

theorem Text.firstIndex?_eq_some_zero_iff (pattern cs : List Char) :
    Text.firstIndex? pattern cs = some 0 ↔ pattern <+: cs := by
  cases cs with
  | nil => cases pattern <;> simp [Text.firstIndex?]
  | cons c cs =>
      rw [Text.firstIndex?, ← List.isPrefixOf_iff_prefix]
      split
      next starts => simp [starts]
      next apart => simp [apart]

/-- A query is ordered if a clause stands in it, in small letters, but not at its beginning. -/
theorem isOrderedSql_iff_occurs (sql : String) :
    isOrderedSql sql = true ↔
      orderingClause <:+: (Text.lowercase sql).toList ∧
        ¬orderingClause <+: (Text.lowercase sql).toList := by
  rw [← Text.isSome_firstIndex?_iff, ← Text.firstIndex?_eq_some_zero_iff]
  unfold isOrderedSql orderingClause
  cases Text.firstIndex? " order by ".toList (Text.lowercase sql).toList with
  | none => simp
  | some index => simp [Nat.pos_iff_ne_zero]

/-! ## Clauses as they are written -/

/-- A character beyond ASCII has no part in an ordering clause. -/
theorem not_mem_orderingClause {d : Char}
    (other : 128 ≤ d.toNat ∨ d = 'i' ∨ d = 'k' ∨ d = '\x00') : d ∉ orderingClause := by
  have ascii : (orderingClause.all fun letter => letter.toNat < 128 ∧ letter ≠ 'i' ∧
      letter ≠ 'k' ∧ letter ≠ '\x00') = true := by decide
  intro member
  obtain ⟨low, notI, notK, notNull⟩ := of_decide_eq_true (List.all_eq_true.mp ascii d member)
  rcases other with high | equal | equal | equal
  · omega
  · exact notI equal
  · exact notK equal
  · exact notNull equal

theorem toLower_eq_self_of_beyond {c : Char} (beyond : 128 ≤ c.toNat) : c.toLower = c := by
  unfold Char.toLower
  split
  next capital =>
    have last : c.toNat ≤ 90 := capital.2
    omega
  next => rfl

/-- Letters of an ordering clause begin a text in small letters if they do so where only the case of
ASCII letters is changed. -/
theorem prefix_lowercaseFrom_iff {word : List Char} (letters : ∀ d ∈ word, d ∈ orderingClause)
    (casedBehind : Bool) (cs : List Char) :
    word <+: Text.lowercaseFrom casedBehind cs ↔ word <+: cs.map Char.toLower := by
  induction word generalizing casedBehind cs with
  | nil => exact iff_of_true List.nil_prefix List.nil_prefix
  | cons d word ih =>
      cases cs with
      | nil => rfl
      | cons c rest =>
          obtain ⟨letter, later⟩ := List.forall_mem_cons.mp letters
          obtain ⟨small, casedBehind', nonempty, lowered, ⟨-, rfl⟩ | ⟨beyond, others⟩⟩ :=
            Text.lowercaseFrom_cons casedBehind c rest
          · rw [lowered, List.map_cons, List.singleton_append, List.cons_prefix_cons,
              List.cons_prefix_cons, ih later]
          · obtain ⟨x, xs, rfl⟩ := List.exists_cons_of_ne_nil nonempty
            rw [lowered, List.map_cons, List.cons_append, List.cons_prefix_cons,
              List.cons_prefix_cons, toLower_eq_self_of_beyond beyond]
            refine iff_of_false (fun starts => ?_) (fun starts => ?_)
            · exact not_mem_orderingClause (others x List.mem_cons_self) (starts.1 ▸ letter)
            · exact not_mem_orderingClause (.inl beyond) (starts.1 ▸ letter)

/-- The clauses of a text in small letters are those of the text where only the case of ASCII
letters is changed. -/
theorem infix_lowercaseFrom_iff (casedBehind : Bool) (cs : List Char) :
    orderingClause <:+: Text.lowercaseFrom casedBehind cs ↔
      orderingClause <:+: cs.map Char.toLower := by
  induction cs generalizing casedBehind with
  | nil => rfl
  | cons c rest ih =>
      have starts := prefix_lowercaseFrom_iff (fun _ member => member) casedBehind (c :: rest)
      obtain ⟨small, casedBehind', nonempty, lowered, ⟨-, rfl⟩ | ⟨beyond, others⟩⟩ :=
        Text.lowercaseFrom_cons casedBehind c rest
      · rw [lowered, List.singleton_append] at starts ⊢
        rw [List.map_cons, List.infix_cons_iff, List.infix_cons_iff, ih, starts, List.map_cons]
      · have apart : ' ' ∉ small := fun member =>
          not_mem_orderingClause (others ' ' member) (by decide)
        have apart' : ' ' ∉ [c.toLower] := fun member =>
          not_mem_orderingClause (.inl (toLower_eq_self_of_beyond beyond ▸ beyond))
            (List.mem_singleton.mp member ▸ (by decide : ' ' ∈ orderingClause))
        rw [lowered, List.map_cons, ← List.singleton_append]
        exact (infix_append_iff_of_not_mem apart).trans
          ((ih casedBehind').trans (infix_append_iff_of_not_mem apart').symm)

/-- So are the clauses after the first character. -/
theorem infix_tail_lowercaseFrom_iff (casedBehind : Bool) (cs : List Char) :
    orderingClause <:+: (Text.lowercaseFrom casedBehind cs).tail ↔
      orderingClause <:+: (cs.map Char.toLower).tail := by
  cases cs with
  | nil => rfl
  | cons c rest =>
      obtain ⟨small, casedBehind', nonempty, lowered, ⟨-, rfl⟩ | ⟨-, others⟩⟩ :=
        Text.lowercaseFrom_cons casedBehind c rest
      · rw [lowered, List.map_cons]
        exact infix_lowercaseFrom_iff casedBehind' rest
      · obtain ⟨x, xs, rfl⟩ := List.exists_cons_of_ne_nil nonempty
        have apart : ' ' ∉ xs := fun member =>
          not_mem_orderingClause (others ' ' (List.mem_cons_of_mem x member)) (by decide)
        rw [lowered, List.map_cons]
        exact (infix_append_iff_of_not_mem apart).trans (infix_lowercaseFrom_iff casedBehind' rest)

/-- A query is ordered if and only if an ordering clause stands in it after the first character and
none at its beginning, in small letters. It makes no difference whether all letters are made small
or those of ASCII only. -/
theorem isOrderedSql_iff_clauseAt (sql : String) :
    (isOrderedSql sql = true ↔
        (∃ n, 0 < n ∧ ClauseAt (Text.lowercase sql).toList n) ∧
          ¬ClauseAt (Text.lowercase sql).toList 0) ∧
      ((∃ n, 0 < n ∧ ClauseAt (Text.lowercase sql).toList n) ↔
        ∃ n, 0 < n ∧ ClauseAt (Text.asciiLower sql).toList n) ∧
      (ClauseAt (Text.lowercase sql).toList 0 ↔ ClauseAt (Text.asciiLower sql).toList 0) := by
  have lowered : (Text.lowercase sql).toList = Text.lowercaseFrom false sql.toList :=
    String.toList_ofList
  have mapped : (Text.asciiLower sql).toList = sql.toList.map Char.toLower := String.toList_ofList
  have later : ∀ text : List Char, orderingClause <:+: text ∧ ¬orderingClause <+: text ↔
      orderingClause <:+: text.tail ∧ ¬orderingClause <+: text := by
    intro text
    cases text with
    | nil => rfl
    | cons c rest =>
        rw [List.infix_cons_iff, List.tail_cons]
        exact ⟨fun ⟨stands, apart⟩ => ⟨stands.resolve_left apart, apart⟩,
          fun ⟨stands, apart⟩ => ⟨.inr stands, apart⟩⟩
  refine ⟨?_, ?_, ?_⟩
  · exact (isOrderedSql_iff_occurs sql).trans
      ((later _).trans (and_congr_left' infix_tail_iff_exists_drop))
  · rw [lowered, mapped]
    exact infix_tail_iff_exists_drop.symm.trans
      ((infix_tail_lowercaseFrom_iff false sql.toList).trans infix_tail_iff_exists_drop)
  · rw [lowered, mapped]
    exact prefix_lowercaseFrom_iff (fun _ member => member) false sql.toList

/-- A query with two ordering clauses, the first of them at its beginning. -/
theorem not_isOrderedSql_of_leading_clause :
    let sql := " ORDER BY a ORDER BY b"
    ClauseAt (Text.lowercase sql).toList 11 ∧ isOrderedSql sql = false := by
  intro sql
  have small : (Text.lowercase sql).toList = " order by a order by b".toList := by decide +kernel
  exact ⟨by rw [small]; exact ⟨"b".toList, by decide +kernel⟩, by decide +kernel⟩

end QueryRegression
