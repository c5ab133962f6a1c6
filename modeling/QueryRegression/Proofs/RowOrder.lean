import QueryRegression.Compare.RowOrder
import QueryRegression.Proofs.StableSort
import QueryRegression.Proofs.ValueOrder

/-!
# The order of rows, and what sorting does to it

* `IndexedRow.sort?_perm`: sorting rows neither loses nor repeats a row.
* `IndexedRow.orderIfNeeded?_isReordering`: the rows in the order of comparison lead back, by their
  indexes, to the rows as delivered, to each of them exactly once.
* `IndexedRow.sort?_of_consistent`: rows whose keys are in a consistent order are sorted, and where
  they belong (`IndexedRow.sorted`).
* `IndexedRow.orderIfNeeded?_zip_perm`, `IndexedRow.sorted_zip_sorted_perm`: rows that face each
  other still do when both sides are sorted, if any two rows compare alike on both sides, or if keys
  are in a consistent order and no two rows are out of order on one side only.
* `IndexedRow.map_rowKey_sorted_of_perm`: two results of the same rows have, after sorting, equal
  keys at every place, if the key columns hold values of one type each.
-/

namespace QueryRegression.IndexedRow

open Sorting (stableSort stableSort? stableSort_perm stableSort_congr stableSort_of_ascending
  map_stableSort zip_stableSort zip_stableSort? stableSort_eq_of_perm stableSort?_perm
  stableSort?_congr stableSort?_of_consistent IsConsistent)

/-! ## Comparison of keys -/

theorem compareKeys_swap (width : Nat) (a b : Row) :
    compareKeys width a b = (compareKeys width b a).swap := by
  induction width generalizing a b with
  | zero => rfl
  | succ width ih =>
      cases a with
      | nil => cases b <;> rfl
      | cons x a =>
          cases b with
          | nil => rfl
          | cons y b => rw [compareKeys, compareKeys, Ordering.swap_then, ← ih,
              ← Value.sortCompare_swap]

instance (width : Nat) :
    Std.OrientedCmp fun a b : IndexedRow => compareKeys width a.values b.values :=
  ⟨fun {a b} => compareKeys_swap width a.values b.values⟩

/-- A limit on the columns beyond the last column of a row does not count. -/
theorem compareKeys_min (limit : Nat) (a b : Row) :
    compareKeys (min a.length limit) a b = compareKeys limit a b := by
  induction a generalizing limit b with
  | nil => cases limit <;> rfl
  | cons x a ih =>
      cases limit with
      | zero => rfl
      | succ limit =>
          rw [List.length_cons, Nat.add_min_add_right]
          cases b with
          | nil => rfl
          | cons y b => rw [compareKeys, compareKeys, ih]

/-- Rows compare as equal if and only if their values do, column by column. -/
theorem compareKeys_eq_iff {width : Nat} {a b : Row} :
    compareKeys width a b = .eq ↔
      ∀ column < width, ∀ x y, a[column]? = some x → b[column]? = some y →
        x.sortCompare y = .eq := by
  induction width generalizing a b with
  | zero => simp [compareKeys]
  | succ width ih =>
      cases a with
      | nil => simp [compareKeys]
      | cons x a =>
          cases b with
          | nil => simp [compareKeys]
          | cons y b =>
              rw [compareKeys, Ordering.then_eq_eq, ih]
              constructor
              · rintro ⟨head, tail⟩ (_ | column) below u v atLeft atRight
                · cases atLeft
                  cases atRight
                  exact head
                · exact tail column (Nat.lt_of_succ_lt_succ below) u v atLeft atRight
              · intro columns
                exact ⟨columns 0 (Nat.succ_pos width) x y rfl rfl, fun column below =>
                  columns (column + 1) (Nat.succ_lt_succ below)⟩

/-! ## Rows with their indexes -/

theorem map_values_ofRows (rows : List Row) : (ofRows rows).map values = rows := by
  rw [ofRows, List.map_map]
  exact List.zipIdx_map_fst 0 rows

theorem map_index_ofRows (rows : List Row) : (ofRows rows).map index = List.range rows.length := by
  rw [ofRows, List.map_map, List.range_eq_range']
  exact List.zipIdx_map_snd 0 rows

theorem length_ofRows (rows : List Row) : (ofRows rows).length = rows.length := by
  rw [← List.length_map values, map_values_ofRows]

theorem getElem?_ofRows (rows : List Row) (i : Nat) :
    (ofRows rows)[i]? = rows[i]?.map fun row => ⟨i, row⟩ := by
  rw [ofRows, List.getElem?_map, List.getElem?_zipIdx, Option.map_map, Nat.zero_add]
  rfl

theorem mem_ofRows {rows : List Row} {row : IndexedRow} :
    row ∈ ofRows rows ↔ rows[row.index]? = some row.values := by
  rw [List.mem_iff_getElem?]
  constructor
  · rintro ⟨i, found⟩
    rw [getElem?_ofRows] at found
    obtain ⟨values, at_, rfl⟩ := Option.map_eq_some_iff.mp found
    exact at_
  · intro delivered
    exact ⟨row.index, by rw [getElem?_ofRows, delivered]; rfl⟩

/-- Rows face each other as delivered if they have one index. -/
theorem mem_zip_ofRows {actual expected : List Row} {a e : IndexedRow} :
    (a, e) ∈ (ofRows actual).zip (ofRows expected) ↔
      a.index = e.index ∧ actual[a.index]? = some a.values ∧
        expected[e.index]? = some e.values := by
  simp only [List.mem_iff_getElem?, List.getElem?_zip_eq_some, getElem?_ofRows,
    Option.map_eq_some_iff]
  constructor
  · rintro ⟨i, ⟨row, left, rfl⟩, ⟨row', right, rfl⟩⟩
    exact ⟨rfl, left, right⟩
  · rintro ⟨sameIndex, left, right⟩
    refine ⟨a.index, ⟨a.values, left, rfl⟩, e.values, ?_, ?_⟩
    · rw [sameIndex]
      exact right
    · rw [sameIndex]

theorem values_mem {rows : List Row} {row : IndexedRow} (member : row ∈ ofRows rows) :
    row.values ∈ rows :=
  List.mem_of_getElem? (mem_ofRows.mp member)

/-- Rows that were put into some order: each leads back by its index to the row as delivered, and
each delivered row is led back to from exactly one place. -/
structure IsReordering (rows : List Row) (ordered : List IndexedRow) : Prop where
  delivered : ∀ (i : Nat) (row : IndexedRow), ordered[i]? = some row →
    rows[row.index]? = some row.values
  onto : ∀ k < rows.length, ∃ (i : Nat) (row : IndexedRow), ordered[i]? = some row ∧ row.index = k
  once : ∀ (i j : Nat) (row other : IndexedRow), ordered[i]? = some row →
    ordered[j]? = some other → row.index = other.index → i = j

theorem isReordering_of_perm {rows : List Row} {ordered : List IndexedRow}
    (perm : ordered.Perm (ofRows rows)) : IsReordering rows ordered where
  delivered i row found := mem_ofRows.mp (perm.mem_iff.mp (List.mem_of_getElem? found))
  onto k below := by
    have member : (⟨k, rows[k]⟩ : IndexedRow) ∈ ordered :=
      perm.mem_iff.mpr (mem_ofRows.mpr (List.getElem?_eq_getElem below))
    obtain ⟨i, found⟩ := List.mem_iff_getElem?.mp member
    exact ⟨i, _, found, rfl⟩
  once i j row other found found' equal := by
    have indexes := perm.map index
    rw [map_index_ofRows] at indexes
    have distinct : (ordered.map index).Nodup := indexes.nodup_iff.mpr List.nodup_range
    have bound : i < (ordered.map index).length := by
      rw [List.length_map]
      exact (List.getElem?_eq_some_iff.mp found).1
    refine (List.getElem?_inj bound distinct).mp ?_
    rw [List.getElem?_map, List.getElem?_map, found, found', Option.map_some, Option.map_some,
      equal]

/-! ## Sorting -/

/-- Sorting rows neither loses nor repeats a row. -/
theorem sort?_perm {rows ordered : List IndexedRow} (found : sort? rows = some ordered) :
    ordered.Perm rows := by
  unfold sort? at found
  dsimp only at found
  split at found
  · cases found
    exact .refl rows
  · exact stableSort?_perm found

theorem orderIfNeeded?_unordered {actual expected : List Row}
    (length : actual.length = expected.length) :
    orderIfNeeded? actual expected false =
      (sort? (ofRows actual)).bind fun a =>
        (sort? (ofRows expected)).bind fun e => some (a, e) := by
  cases actual with
  | nil =>
      rw [List.eq_nil_of_length_eq_zero length.symm]
      rfl
  | cons row actual =>
      cases expected with
      | nil => cases length
      | cons => rfl

theorem orderIfNeeded?_perm {actual expected : List Row} {isOrdered : Bool}
    {actualRows expectedRows : List IndexedRow}
    (ordered : orderIfNeeded? actual expected isOrdered = some (actualRows, expectedRows)) :
    actualRows.Perm (ofRows actual) ∧ expectedRows.Perm (ofRows expected) := by
  unfold orderIfNeeded? at ordered
  split at ordered
  · cases ordered
    exact ⟨.refl _, .refl _⟩
  · obtain ⟨a, sortedLeft, rest⟩ := Option.bind_eq_some_iff.mp ordered
    obtain ⟨e, sortedRight, pair⟩ := Option.bind_eq_some_iff.mp rest
    cases pair
    exact ⟨sort?_perm sortedLeft, sort?_perm sortedRight⟩

/-- The rows in the order of comparison lead back to the rows as delivered. -/
theorem orderIfNeeded?_isReordering {actual expected : List Row} {isOrdered : Bool}
    {actualRows expectedRows : List IndexedRow}
    (ordered : orderIfNeeded? actual expected isOrdered = some (actualRows, expectedRows)) :
    IsReordering actual actualRows ∧ IsReordering expected expectedRows :=
  have perms := orderIfNeeded?_perm ordered
  ⟨isReordering_of_perm perms.1, isReordering_of_perm perms.2⟩

/-! ## Rows in the order of their keys -/

/-- Where rows belong: in the order of their keys, rows of equal keys as given. -/
def sorted (rows : List IndexedRow) : List IndexedRow :=
  stableSort (fun a b => compareKeys keyColumns a.values b.values) rows

/-- The keys of rows are in a consistent order. -/
def HasConsistentKeys (rows : List Row) : Prop := IsConsistent (compareKeys keyColumns) rows

instance (rows : List Row) : Decidable (HasConsistentKeys rows) :=
  inferInstanceAs (Decidable (IsConsistent (compareKeys keyColumns) rows))

theorem sorted_perm (rows : List IndexedRow) : (sorted rows).Perm rows := stableSort_perm _ rows

theorem keyWidth_eq_min {rows : List IndexedRow} {width : Nat} (nonempty : rows ≠ [])
    (uniform : ∀ row ∈ rows, row.values.length = width) : keyWidth rows = min width keyColumns := by
  cases rows with
  | nil => exact absurd rfl nonempty
  | cons row rows => rw [keyWidth, uniform row List.mem_cons_self]

/-- Rows of equal length are sorted by as many of their values as there may be key columns. -/
theorem sort?_ofRows {rows : List Row} {width : Nat} (uniform : ∀ row ∈ rows, row.length = width) :
    sort? (ofRows rows) =
      if min width keyColumns = 0 then some (ofRows rows)
      else stableSort? (fun a b => compareKeys keyColumns a.values b.values) (ofRows rows) := by
  by_cases nonempty : ofRows rows = []
  · rw [nonempty]
    exact (ite_self (some [])).symm
  have uniform' : ∀ row ∈ ofRows rows, row.values.length = width :=
    fun row member => uniform row.values (values_mem member)
  unfold sort?
  rw [keyWidth_eq_min nonempty uniform']
  dsimp only
  split
  · rfl
  · refine stableSort?_congr fun a member b _ => ?_
    rw [← uniform' a member, compareKeys_min]

/-- Rows of equal length whose keys are in a consistent order are put where they belong. -/
theorem sort?_of_consistent {rows : List Row} {width : Nat}
    (uniform : ∀ row ∈ rows, row.length = width) (consistent : HasConsistentKeys rows) :
    sort? (ofRows rows) = some (sorted (ofRows rows)) := by
  rw [sort?_ofRows uniform]
  split
  next zero =>
    -- Without key columns no row is greater than another.
    refine congrArg some (stableSort_of_ascending ?_).symm
    refine List.pairwise_of_forall_mem_list fun a member b _ => ?_
    have limited : compareKeys (min a.values.length keyColumns) a.values b.values =
        compareKeys keyColumns a.values b.values := compareKeys_min ..
    rw [uniform a.values (values_mem member), zero] at limited
    rw [← limited]
    exact nofun
  next =>
    apply stableSort?_of_consistent
    intro a inRows b inRows' c inRows''
    exact consistent _ (values_mem inRows) _ (values_mem inRows') _ (values_mem inRows'')

/-- An unordered comparison puts both sides where they belong. -/
theorem orderIfNeeded?_of_consistent {actual expected : List Row} {actualWidth expectedWidth : Nat}
    (actualUniform : ∀ row ∈ actual, row.length = actualWidth)
    (expectedUniform : ∀ row ∈ expected, row.length = expectedWidth)
    (actualKeys : HasConsistentKeys actual) (expectedKeys : HasConsistentKeys expected)
    (length : actual.length = expected.length) :
    orderIfNeeded? actual expected false =
      some (sorted (ofRows actual), sorted (ofRows expected)) := by
  rw [orderIfNeeded?_unordered length, sort?_of_consistent actualUniform actualKeys,
    sort?_of_consistent expectedUniform expectedKeys]
  rfl

/-! ## Rows that face each other -/

/-- No two rows are out of order in one result only. -/
def SameInversions (actual expected : List Row) : Prop :=
  ∀ (i j : Nat) (a b e f : Row), i < j → actual[i]? = some a → actual[j]? = some b →
    expected[i]? = some e → expected[j]? = some f →
    (compareKeys keyColumns a b = .gt ↔ compareKeys keyColumns e f = .gt)

/-- Rows that face each other still do when both sides are sorted, if any two of them have the same
order on both sides. -/
theorem sorted_zip_sorted_perm {actual expected : List Row}
    (length : actual.length = expected.length)
    (inversions : SameInversions actual expected) :
    ((sorted (ofRows actual)).zip (sorted (ofRows expected))).Perm
      ((ofRows actual).zip (ofRows expected)) := by
  rw [sorted, sorted, zip_stableSort]
  · exact stableSort_perm _ _
  · rw [length_ofRows, length_ofRows, length]
  · rw [List.pairwise_iff_getElem]
    intro i j iBound jBound less
    simp only [List.getElem_zip]
    rw [List.length_zip, length_ofRows, length_ofRows] at iBound jBound
    have values : ∀ (rows : List Row) (k : Nat) (below : k < (ofRows rows).length),
        rows[k]? = some (ofRows rows)[k].values := fun rows k below => by
      have found := getElem?_ofRows rows k
      rw [List.getElem?_eq_getElem below, eq_comm, Option.map_eq_some_iff] at found
      obtain ⟨row, delivered, indexed⟩ := found
      rw [delivered, ← indexed]
    exact inversions i j _ _ _ _ less (values ..) (values ..) (values ..) (values ..)

/-- Any two rows compare alike in both results. -/
def SameComparisons (actual expected : List Row) : Prop :=
  ∀ (i j : Nat) (a b e f : Row), actual[i]? = some a → actual[j]? = some b →
    expected[i]? = some e → expected[j]? = some f →
    compareKeys keyColumns a b = compareKeys keyColumns e f

/-- Rows that face each other still do when both sides are put in order, if any two of them compare
alike on both sides. -/
theorem orderIfNeeded?_zip_perm {actual expected : List Row} {width : Nat}
    (actualUniform : ∀ row ∈ actual, row.length = width)
    (expectedUniform : ∀ row ∈ expected, row.length = width)
    (length : actual.length = expected.length) (same : SameComparisons actual expected)
    {actualRows expectedRows : List IndexedRow}
    (ordered : orderIfNeeded? actual expected false = some (actualRows, expectedRows)) :
    (actualRows.zip expectedRows).Perm ((ofRows actual).zip (ofRows expected)) := by
  rw [orderIfNeeded?_unordered length] at ordered
  obtain ⟨a, left, rest⟩ := Option.bind_eq_some_iff.mp ordered
  obtain ⟨e, right, pair⟩ := Option.bind_eq_some_iff.mp rest
  cases pair
  rw [sort?_ofRows actualUniform] at left
  rw [sort?_ofRows expectedUniform] at right
  split at left
  next zero =>
    rw [if_pos zero] at right
    cases left
    cases right
    exact .refl _
  next nonzero =>
    rw [if_neg nonzero] at right
    refine stableSort?_perm (zip_stableSort? ?_ ?_ left right)
    · rw [length_ofRows, length_ofRows, length]
    · rintro ⟨p, p'⟩ member ⟨q, q'⟩ member'
      obtain ⟨index, atLeft, atRight⟩ := mem_zip_ofRows.mp member
      obtain ⟨index', atLeft', atRight'⟩ := mem_zip_ofRows.mp member'
      rw [← index] at atRight
      rw [← index'] at atRight'
      exact same _ _ _ _ _ _ atLeft atLeft' atRight atRight'

/-! ## Keys of rows -/

/-- What a row is sorted by. -/
def rowKey (row : Row) : List (List Int) := (row.take keyColumns).map Value.sortKey

/-- All values in a key column have one type, save nulls. -/
def HasTypedKeys (rows : List Row) : Prop :=
  ∀ column < keyColumns, ∃ typeName, ∀ row ∈ rows, ∀ v, row[column]? = some v →
    v.InColumn typeName

/-- Sorting does not tell the rows apart. -/
def TiedRows (a b : Row) : Prop :=
  ∀ column < keyColumns, ∀ x y, a[column]? = some x → b[column]? = some y → x.sortCompare y = .eq

theorem compareKeys_eq_compare {width : Nat} {a b : Row} (length : a.length = b.length)
    (keyed : ∀ column < width, ∀ x y, a[column]? = some x → b[column]? = some y →
      x.sortCompare y = compare x.sortKey y.sortKey) :
    compareKeys width a b =
      compare ((a.take width).map Value.sortKey) ((b.take width).map Value.sortKey) := by
  induction width generalizing a b with
  | zero => rfl
  | succ width ih =>
      cases a with
      | nil =>
          rw [List.eq_nil_of_length_eq_zero length.symm]
          rfl
      | cons x a =>
          cases b with
          | nil => exact absurd length (Nat.succ_ne_zero a.length)
          | cons y b =>
              have head := keyed 0 (Nat.succ_pos width) x y rfl rfl
              have tail := ih (Nat.succ.inj length) fun column below =>
                keyed (column + 1) (Nat.succ_lt_succ below)
              rw [compareKeys, head, tail, List.take_succ_cons, List.take_succ_cons, List.map_cons,
                List.map_cons, List.compare_cons_cons]

theorem forall_mem_zip_of_map_eq {α β γ : Type} {f : α → γ} {g : β → γ} {xs : List α} {ys : List β}
    (mapped : xs.map f = ys.map g) : ∀ pair ∈ xs.zip ys, f pair.1 = g pair.2 := by
  rintro ⟨x, y⟩ member
  obtain ⟨i, found⟩ := List.mem_iff_getElem?.mp member
  obtain ⟨left, right⟩ := List.getElem?_zip_eq_some.mp found
  have entry := congrArg (·[i]?) mapped
  simp only [List.getElem?_map, left, right, Option.map_some, Option.some.injEq] at entry
  exact entry

theorem HasTypedKeys.of_perm {rows others : List Row} (typed : HasTypedKeys rows)
    (perm : others.Perm rows) : HasTypedKeys others := by
  intro column below
  obtain ⟨typeName, inColumn⟩ := typed column below
  exact ⟨typeName, fun row member => inColumn row (perm.mem_iff.mp member)⟩

section TypedKeys

variable {rows others : List Row} {width : Nat} {a b : Row}
  (widths : ∀ row ∈ rows, row.length = width) (typed : HasTypedKeys rows)
include widths typed

/-- Rows of one result compare as their keys. -/
theorem compareKeys_eq_compare_rowKey (left : a ∈ rows) (right : b ∈ rows) :
    compareKeys keyColumns a b = compare (rowKey a) (rowKey b) := by
  apply compareKeys_eq_compare ((widths a left).trans (widths b right).symm)
  intro column below x y atLeft atRight
  obtain ⟨typeName, inColumn⟩ := typed column below
  exact Value.sortCompare_eq_compare_sortKey (inColumn a left x atLeft) (inColumn b right y atRight)

theorem tiedRows_iff (left : a ∈ rows) (right : b ∈ rows) :
    TiedRows a b ↔ rowKey a = rowKey b := by
  rw [TiedRows, ← compareKeys_eq_iff, compareKeys_eq_compare_rowKey widths typed left right]
  exact Std.LawfulEqOrd.compare_eq_iff_eq

/-- Values of one type in each key column are in a consistent order. -/
theorem hasConsistentKeys_of_typed : HasConsistentKeys rows := by
  intro a inRows b inRows' c inRows''
  rw [compareKeys_eq_compare_rowKey widths typed inRows inRows',
    compareKeys_eq_compare_rowKey widths typed inRows' inRows'',
    compareKeys_eq_compare_rowKey widths typed inRows inRows'']
  simp only [ne_eq, ← Ordering.isLE_eq_false, Bool.not_eq_false]
  exact Std.TransCmp.isLE_trans

/-- The keys of sorted rows are the sorted keys. -/
theorem map_rowKey_sorted :
    (sorted (ofRows rows)).map (fun row => rowKey row.values) =
      stableSort compare (rows.map rowKey) := by
  have byKey : sorted (ofRows rows) =
      stableSort (fun a b : IndexedRow => compare (rowKey a.values) (rowKey b.values))
        (ofRows rows) := by
    apply stableSort_congr
    apply List.pairwise_of_forall_mem_list
    intro a inRows b inRows'
    rw [compareKeys_eq_compare_rowKey widths typed (values_mem inRows) (values_mem inRows')]
  rw [byKey, map_stableSort compare fun row : IndexedRow => rowKey row.values]
  have keys := congrArg (List.map rowKey) (map_values_ofRows rows)
  rw [List.map_map] at keys
  exact congrArg (stableSort compare) keys

/-- Two results of the same rows have, after sorting, equal keys at every place. -/
theorem map_rowKey_sorted_of_perm (perm : others.Perm rows) :
    (sorted (ofRows others)).map (fun row => rowKey row.values) =
      (sorted (ofRows rows)).map (fun row => rowKey row.values) := by
  rw [map_rowKey_sorted widths typed,
    map_rowKey_sorted (fun row member => widths row (perm.mem_iff.mp member)) (typed.of_perm perm)]
  exact stableSort_eq_of_perm (perm.map rowKey)

/-- Two results of the same rows with equal keys at every place are sorted by one permutation. -/
theorem sorted_zip_sorted_perm_of_rowKey (perm : others.Perm rows)
    (keys : ∀ (k : Nat) (c d : Row), others[k]? = some c → rows[k]? = some d →
      rowKey c = rowKey d) :
    ((sorted (ofRows others)).zip (sorted (ofRows rows))).Perm
      ((ofRows others).zip (ofRows rows)) := by
  apply sorted_zip_sorted_perm perm.length_eq
  intro i j a b e f _ left right left' right'
  have inRows : ∀ {k : Nat} {c : Row}, others[k]? = some c → c ∈ rows := fun found =>
    perm.mem_iff.mp (List.mem_of_getElem? found)
  rw [compareKeys_eq_compare_rowKey widths typed (inRows left) (inRows right),
    compareKeys_eq_compare_rowKey widths typed (List.mem_of_getElem? left')
      (List.mem_of_getElem? right'), keys i a e left left', keys j b f right right']

end TypedKeys

/-! ## Two rows exchanged -/

section Exchange

variable {rows : List Row} {i j : Nat} {a b : Row} (atI : rows[i]? = some a)
  (atJ : rows[j]? = some b)
include atI atJ

theorem getElem?_exchange (k : Nat) :
    ((rows.set i b).set j a)[k]? =
      if k = j then some a else if k = i then some b else rows[k]? := by
  have iBound := (List.getElem?_eq_some_iff.mp atI).1
  have jBound := (List.getElem?_eq_some_iff.mp atJ).1
  rw [List.getElem?_set, List.getElem?_set, List.length_set]
  simp only [iBound, jBound, if_true, eq_comm]

theorem exchange_perm : ((rows.set i b).set j a).Perm rows := by
  obtain ⟨iBound, rfl⟩ := List.getElem?_eq_some_iff.mp atI
  obtain ⟨jBound, rfl⟩ := List.getElem?_eq_some_iff.mp atJ
  exact List.set_set_perm iBound jBound

/-- Exchanging rows of equal keys leaves the key at every place as it is. -/
theorem rowKey_exchange (equalKeys : rowKey a = rowKey b) {k : Nat} {c d : Row}
    (exchanged : ((rows.set i b).set j a)[k]? = some c) (delivered : rows[k]? = some d) :
    rowKey c = rowKey d := by
  rw [getElem?_exchange atI atJ] at exchanged
  split at exchanged
  next atK =>
    rw [atK, atJ] at delivered
    cases exchanged
    cases delivered
    exact equalKeys
  next =>
    split at exchanged
    next atK =>
      rw [atK, atI] at delivered
      cases exchanged
      cases delivered
      exact equalKeys.symm
    next =>
      rw [exchanged] at delivered
      cases delivered
      rfl

/-- Two tied rows that are exchanged face each other after sorting, both ways. -/
theorem exchange_mem_zip {width : Nat} (widths : ∀ row ∈ rows, row.length = width)
    (typed : HasTypedKeys rows) (differ : i ≠ j) (tied : TiedRows a b) :
    (⟨i, b⟩, ⟨i, a⟩) ∈
        (sorted (ofRows ((rows.set i b).set j a))).zip (sorted (ofRows rows)) ∧
      (⟨j, a⟩, ⟨j, b⟩) ∈
        (sorted (ofRows ((rows.set i b).set j a))).zip (sorted (ofRows rows)) := by
  have equalKeys := (tiedRows_iff widths typed (List.mem_of_getElem? atI)
    (List.mem_of_getElem? atJ)).mp tied
  have aligned := sorted_zip_sorted_perm_of_rowKey widths typed (exchange_perm atI atJ)
    fun _ _ _ exchanged delivered => rowKey_exchange atI atJ equalKeys exchanged delivered
  constructor
  · apply aligned.mem_iff.mpr
    refine mem_zip_ofRows.mpr ⟨rfl, ?_, atI⟩
    rw [getElem?_exchange atI atJ, if_neg differ, if_pos rfl]
  · apply aligned.mem_iff.mpr
    refine mem_zip_ofRows.mpr ⟨rfl, ?_, atJ⟩
    rw [getElem?_exchange atI atJ, if_pos rfl]

end Exchange

end QueryRegression.IndexedRow
