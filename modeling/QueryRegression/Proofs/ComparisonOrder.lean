import QueryRegression.Proofs.RowOrder

/-!
# The order in which rows are compared

`IndexedRow.orderIfNeeded?_inOrder` says what each side of a comparison looks like after it was
ordered: it has the rows that were delivered, each with its index; it is left as delivered where
nothing is sorted; and where key columns hold values of one type each, sorted rows ascend in the
lexicographic order of these columns, and tied rows keep the order in which they were delivered.
Rows whose keys are in no consistent order need not be put in order at all: the sort of
`unsortableRows` breaks off.

Rows as delivered have ascending indexes, so a sort by keys finds the same inversions as a sort by
keys and then by index (`sorted_eq_stableSort_byKeyAndIndex`). That sort leaves no ties, and both
the ascent and the order of tied rows are read off its result.
-/

namespace QueryRegression.IndexedRow

open Sorting (stableSort stableSort_congr stableSort_pairwise stableSort_of_ascending)

/-! ## The lexicographic order of rows -/

/-- In the first of the leading columns in which two rows are not tied, the first row has the lesser
value. -/
def LexLess (width : Nat) (a b : Row) : Prop :=
  ∃ column < width,
    (∀ earlier < column, ∀ x y, a[earlier]? = some x → b[earlier]? = some y →
      x.sortCompare y = .eq) ∧
    ∃ x y, a[column]? = some x ∧ b[column]? = some y ∧ x.sortCompare y = .lt

theorem compareKeys_eq_lt_iff {width : Nat} {a b : Row} :
    compareKeys width a b = .lt ↔ LexLess width a b := by
  induction width generalizing a b with
  | zero => simp [compareKeys, LexLess]
  | succ width ih =>
      cases a with
      | nil => simp [compareKeys, LexLess]
      | cons x a =>
          cases b with
          | nil => simp [compareKeys, LexLess]
          | cons y b =>
              rw [compareKeys, Ordering.then_eq_lt, ih]
              constructor
              · rintro (less | ⟨tied, column, below, earlier, u, v, atLeft, atRight, less⟩)
                · exact ⟨0, Nat.succ_pos width, fun _ before => absurd before (Nat.not_lt_zero _),
                    x, y, rfl, rfl, less⟩
                · refine ⟨column + 1, Nat.succ_lt_succ below, ?_, u, v, atLeft, atRight, less⟩
                  rintro (_ | before) isEarlier u v inLeft inRight
                  · cases inLeft
                    cases inRight
                    exact tied
                  · exact earlier before (Nat.lt_of_succ_lt_succ isEarlier) u v inLeft inRight
              · rintro ⟨_ | column, below, earlier, u, v, atLeft, atRight, less⟩
                · cases atLeft
                  cases atRight
                  exact .inl less
                · refine .inr ⟨earlier 0 (Nat.succ_pos column) x y rfl rfl, column,
                    Nat.lt_of_succ_lt_succ below, fun before isEarlier => ?_, u, v, atLeft, atRight,
                    less⟩
                  exact earlier (before + 1) (Nat.succ_lt_succ isEarlier)

/-! ## Sorting by keys and indexes -/

theorem ofRows_pairwise (rows : List Row) :
    (ofRows rows).Pairwise fun a b => a.index < b.index := by
  have indexes := List.pairwise_lt_range (n := rows.length)
  rwa [← map_index_ofRows, List.pairwise_map] at indexes

/-- The order by keys, and by the place in the delivered result where keys are equal. -/
def byKeyAndIndex : IndexedRow → IndexedRow → Ordering :=
  compareLex (compareOn fun row => rowKey row.values) (compareOn index)

theorem byKeyAndIndex_eq (a b : IndexedRow) :
    byKeyAndIndex a b = (compare (rowKey a.values) (rowKey b.values)).then
      (compare a.index b.index) := rfl

instance : Std.TransCmp byKeyAndIndex :=
  inferInstanceAs (Std.TransCmp (compareLex _ _))

section TypedKeys

variable {rows : List Row} {width : Nat} (widths : ∀ row ∈ rows, row.length = width)
  (typed : HasTypedKeys rows)
include widths typed

/-- Sorting by keys keeps the order of tied rows, as if their indexes were compared, too. -/
theorem sorted_eq_stableSort_byKeyAndIndex :
    sorted (ofRows rows) = stableSort byKeyAndIndex (ofRows rows) := by
  apply stableSort_congr
  refine (ofRows_pairwise rows).imp_of_mem fun {a b} inRows inRows' less => ?_
  have indexes : compare a.index b.index = .lt := Nat.compare_eq_lt.mpr less
  rw [compareKeys_eq_compare_rowKey widths typed (values_mem inRows) (values_mem inRows'),
    byKeyAndIndex_eq, indexes]
  cases compare (rowKey a.values) (rowKey b.values) <;> decide

/-- Of two sorted rows the first one has the lesser keys, or the rows are tied and the first one was
delivered first. -/
theorem sorted_pairwise :
    (sorted (ofRows rows)).Pairwise fun a b =>
      LexLess keyColumns a.values b.values ∨ TiedRows a.values b.values ∧ a.index < b.index := by
  have perm := sorted_perm (ofRows rows)
  have distinct : (sorted (ofRows rows)).Pairwise fun a b => a.index ≠ b.index := by
    have indexes := (perm.map index).nodup_iff.mpr
      (by rw [map_index_ofRows]; exact List.nodup_range)
    exact List.pairwise_map.mp indexes
  have ascending : (sorted (ofRows rows)).Pairwise fun a b => byKeyAndIndex a b ≠ .gt := by
    rw [sorted_eq_stableSort_byKeyAndIndex widths typed]
    exact stableSort_pairwise (ofRows rows)
  refine (ascending.and distinct).imp_of_mem fun {a b} left right both => ?_
  obtain ⟨notGreater, differ⟩ := both
  have inRows := values_mem (perm.mem_iff.mp left)
  have inRows' := values_mem (perm.mem_iff.mp right)
  rw [byKeyAndIndex_eq, ← compareKeys_eq_compare_rowKey widths typed inRows inRows'] at notGreater
  rw [← compareKeys_eq_lt_iff, TiedRows, ← compareKeys_eq_iff]
  cases keys : compareKeys keyColumns a.values b.values with
  | lt => exact .inl rfl
  | gt => exact absurd (by rw [keys]; rfl) notGreater
  | eq =>
      rw [keys, Ordering.eq_then, ne_eq, Nat.compare_eq_gt, Nat.not_lt] at notGreater
      exact .inr ⟨rfl, Nat.lt_of_le_of_ne notGreater differ⟩

end TypedKeys

/-! ## Both sides of a comparison -/

theorem not_lexLess_of_tiedRows {a b : Row} (tied : TiedRows a b) : ¬LexLess keyColumns a b := by
  rw [← compareKeys_eq_lt_iff, compareKeys_eq_iff.mpr tied]
  nofun

/-- Rows without columns are all tied. -/
theorem compareKeys_of_empty {rows : List Row} (empty : ∀ row ∈ rows, row.length = 0) {a : Row}
    (inRows : a ∈ rows) (b : Row) : compareKeys keyColumns a b = .eq := by
  rw [List.eq_nil_of_length_eq_zero (empty a inRows)]
  rfl

theorem sort?_of_width_zero {rows : List Row} (empty : ∀ row ∈ rows, row.length = 0) :
    sort? (ofRows rows) = some (ofRows rows) := by
  have consistent : HasConsistentKeys rows := fun a inRows _ _ c _ _ _ => by
    rw [compareKeys_of_empty empty inRows c]
    nofun
  rw [sort?_of_consistent empty consistent]
  refine congrArg some (stableSort_of_ascending ?_)
  refine List.pairwise_of_forall_mem_list fun a member b _ => ?_
  rw [compareKeys_of_empty empty (values_mem member) b.values]
  nofun

/-- The rows of one side, of the given number of columns, in the order of comparison; `sorts` says
that the comparison sorts rows. -/
structure InOrder (rows : List Row) (width : Nat) (sorts : Prop) (ordered : List IndexedRow) :
    Prop where
  /-- The rows are those delivered. -/
  perm : ordered.Perm (ofRows rows)
  /-- Each index stands at one place, with the row that was delivered there. -/
  reordering : IsReordering rows ordered
  /-- Rows are left as delivered where nothing is to be sorted. -/
  delivered : ¬sorts ∨ width = 0 → ordered = ofRows rows
  /-- Sorted rows ascend. -/
  ascending : sorts → HasTypedKeys rows → ordered.Pairwise fun a b =>
    LexLess keyColumns a.values b.values ∨ TiedRows a.values b.values
  /-- Tied rows keep their order. -/
  stable : sorts → HasTypedKeys rows → ordered.Pairwise fun a b =>
    TiedRows a.values b.values → a.index < b.index

theorem inOrder_ofRows (rows : List Row) (width : Nat) {sorts : Prop} (unsorted : ¬sorts) :
    InOrder rows width sorts (ofRows rows) where
  perm := .refl _
  reordering := isReordering_of_perm (.refl _)
  delivered _ := rfl
  ascending asked := absurd asked unsorted
  stable asked := absurd asked unsorted

theorem inOrder_of_sort? {rows : List Row} {width : Nat}
    (widths : ∀ row ∈ rows, row.length = width) {sorts : Prop} (asked : sorts)
    {ordered : List IndexedRow} (found : sort? (ofRows rows) = some ordered) :
    InOrder rows width sorts ordered := by
  have ofTyped : HasTypedKeys rows → ordered = sorted (ofRows rows) := fun typed =>
    Option.some.inj (found.symm.trans
      (sort?_of_consistent widths (hasConsistentKeys_of_typed widths typed)))
  constructor
  case perm => exact sort?_perm found
  case reordering => exact isReordering_of_perm (sort?_perm found)
  case delivered =>
    rintro (unsorted | rfl)
    · exact absurd asked unsorted
    · exact Option.some.inj (found.symm.trans (sort?_of_width_zero widths))
  case ascending =>
    intro _ typed
    rw [ofTyped typed]
    exact (sorted_pairwise widths typed).imp fun order => order.imp_right And.left
  case stable =>
    intro _ typed
    rw [ofTyped typed]
    exact (sorted_pairwise widths typed).imp fun order tied =>
      (order.resolve_left (not_lexLess_of_tiedRows tied)).2

/-- Both sides of a comparison that are put in order are in order, whether they were sorted or not.
They are sorted if the query fixes no order and both sides have rows. They are put in order if
nothing is sorted or the keys of both sides are in a consistent order, as keys of one type in each
column are. -/
theorem orderIfNeeded?_inOrder {actual expected : List Row} {actualWidth expectedWidth : Nat}
    (actualWidths : ∀ row ∈ actual, row.length = actualWidth)
    (expectedWidths : ∀ row ∈ expected, row.length = expectedWidth) (isOrdered : Bool) :
    let sorts := isOrdered = false ∧ actual ≠ [] ∧ expected ≠ []
    (∀ actualRows expectedRows,
        orderIfNeeded? actual expected isOrdered = some (actualRows, expectedRows) →
          InOrder actual actualWidth sorts actualRows ∧
            InOrder expected expectedWidth sorts expectedRows) ∧
      ((sorts → HasConsistentKeys actual ∧ HasConsistentKeys expected) →
        ∃ actualRows expectedRows,
          orderIfNeeded? actual expected isOrdered = some (actualRows, expectedRows)) ∧
      (HasTypedKeys actual → HasConsistentKeys actual) ∧
      (HasTypedKeys expected → HasConsistentKeys expected) := by
  intro sorts
  refine ⟨?_, ?_, hasConsistentKeys_of_typed actualWidths,
    hasConsistentKeys_of_typed expectedWidths⟩
  · intro actualRows expectedRows ordered
    unfold orderIfNeeded? at ordered
    split at ordered
    next idle =>
      have unsorted : ¬sorts := by
        rintro ⟨rfl, someActual, someExpected⟩
        simp [someActual, someExpected] at idle
      cases ordered
      exact ⟨inOrder_ofRows actual actualWidth unsorted,
        inOrder_ofRows expected expectedWidth unsorted⟩
    next busy =>
      have asked : sorts := by simpa [sorts, and_assoc] using busy
      obtain ⟨a, left, rest⟩ := Option.bind_eq_some_iff.mp ordered
      obtain ⟨e, right, pair⟩ := Option.bind_eq_some_iff.mp rest
      cases pair
      exact ⟨inOrder_of_sort? actualWidths asked left, inOrder_of_sort? expectedWidths asked right⟩
  · intro consistent
    unfold orderIfNeeded?
    split
    next => exact ⟨_, _, rfl⟩
    next busy =>
      obtain ⟨actualKeys, expectedKeys⟩ :=
        consistent (by simpa [sorts, and_assoc] using busy)
      rw [sort?_of_consistent actualWidths actualKeys,
        sort?_of_consistent expectedWidths expectedKeys]
      exact ⟨_, _, rfl⟩

/-- A null, signed bytes, and two rows that are tied although their decimals have different
scales. -/
theorem orderIfNeeded?_inOrder_four_rows :
    let long : Value := .decimal ⟨150, 2, by decide, by decide⟩
    let short : Value := .decimal ⟨15, 1, by decide, by decide⟩
    let actual : List Row :=
      [[long, .boxedBytes [0]], [short, .boxedBytes [-1]], [.null, .boxedBytes [5]],
        [short, .boxedBytes [0]]]
    let expected : List Row := [[.null, .boxedBytes [5]]]
    let sorts := false = false ∧ actual ≠ [] ∧ expected ≠ []
    (sorts ∧ HasTypedKeys actual ∧ TiedRows [long, .boxedBytes [0]] [short, .boxedBytes [0]]) ∧
      ∃ actualRows expectedRows,
        orderIfNeeded? actual expected false = some (actualRows, expectedRows) ∧
          actualRows.map index = [2, 1, 0, 3] ∧ InOrder actual 2 sorts actualRows ∧
          InOrder expected 2 sorts expectedRows := by
  intro long short actual expected sorts
  have typed : HasTypedKeys actual := by
    rintro (_ | _ | column) below
    · exact ⟨"decimal", by simp [actual, long, short, Value.InColumn, Value.typeName,
        Value.isNull]⟩
    · exact ⟨"Byte[]", by simp [actual, Value.InColumn, Value.typeName]⟩
    · exact ⟨"", by simp [actual]⟩
  have tied : TiedRows [long, .boxedBytes [0]] [short, .boxedBytes [0]] := by
    apply compareKeys_eq_iff.mp
    decide +kernel
  have actualWidths : ∀ row ∈ actual, row.length = 2 := by decide
  have expectedWidths : ∀ row ∈ expected, row.length = 2 := by decide
  obtain ⟨inOrder, returns, actualKeys, -⟩ :=
    orderIfNeeded?_inOrder actualWidths expectedWidths false
  obtain ⟨actualRows, expectedRows, ordered⟩ :=
    returns fun _ => ⟨actualKeys typed, by decide +kernel⟩
  have indexes : (orderIfNeeded? actual expected false).map (fun rows => rows.1.map index) =
      some [2, 1, 0, 3] := by decide +kernel
  rw [ordered] at indexes
  exact ⟨⟨⟨rfl, List.cons_ne_nil _ _, List.cons_ne_nil _ _⟩, typed, tied⟩, actualRows,
    expectedRows, ordered, Option.some.inj indexes, inOrder actualRows expectedRows ordered⟩

/-! ## A sort that breaks off -/

/-- Rows of one column. Two whole numbers beyond the precision of doubles are told apart, but both
are tied with the double between them. -/
def unsortableRows : List Row :=
  let greater : Row := [.bigInt 9007199254740993]
  let tied : Row := [.double (.ofNat 9007199254740992)]
  let lesser : Row := [.bigInt 9007199254740992]
  List.replicate 3 greater ++ List.replicate 3 lesser ++ [tied] ++ List.replicate 11 lesser ++
    [greater, greater, lesser]

/-- The table of these rows. -/
def unsortableTable : Table := ⟨["n"], ["bigint"], unsortableRows, none, 0⟩

/-- Values that are in no consistent order can make a sort break off. -/
theorem sort?_unsortableRows : sort? (ofRows unsortableRows) = none := by
  apply Option.isNone_iff_eq_none.mp
  decide +kernel

end QueryRegression.IndexedRow
