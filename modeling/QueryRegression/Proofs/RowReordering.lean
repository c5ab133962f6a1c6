import QueryRegression.Proofs.TableShape

/-!
# When the order of rows does not count

An unordered comparison sorts both results and compares what then faces each other. Sorting goes by
the values as delivered, matching by tolerances and texts, so the two need not agree.

* `Policy.unordered_of_ordered`: tables that pass as delivered get no error unordered; they pass
  then, too, if rows compare alike in both results, or if keys are in a consistent order and no two
  rows are out of order in one result only.
* `Policy.passes_perm_iff`: a table passes against every reordering of its rows if and only if rows
  with equal keys match each other.
-/

namespace QueryRegression.Policy

open Table IndexedRow

variable {p : Policy} {actual expected : Table}

/-! ## Rows that match as delivered -/

theorem rowsMatch_of_ordered (actualFormed : actual.validate = .ok ())
    (expectedFormed : expected.validate = .ok ()) (hasRows : expected.hasRows = true)
    (ordered : p.Passes actual expected true) {i : Nat} {a e : Row}
    (left : actual.rows[i]? = some a) (right : expected.rows[i]? = some e) : RowsMatch p a e :=
  ((passes_iff_rowsMatch actualFormed expectedFormed hasRows rfl).mp ordered).2 (⟨i, a⟩, ⟨i, e⟩)
    (mem_zip_ofRows.mpr ⟨rfl, left, right⟩)

/-- What matched as delivered can be read wherever it stands. -/
theorem readable_of_ordered (actualFormed : actual.validate = .ok ())
    (expectedFormed : expected.validate = .ok ()) (hasRows : expected.hasRows = true)
    (ordered : p.Passes actual expected true) {row : Row} (inRows : row ∈ actual.rows) {x : Value}
    (inRow : x ∈ row) (y : Value) : x.Readable y := by
  obtain ⟨⟨columns, counts⟩, -⟩ :=
    (passes_iff_rowsMatch actualFormed expectedFormed hasRows rfl).mp ordered
  obtain ⟨actualWidth, expectedWidth⟩ := rowWidths actualFormed expectedFormed columns
  obtain ⟨i, left⟩ := List.mem_iff_getElem?.mp inRows
  obtain ⟨column, atLeft⟩ := List.mem_iff_getElem?.mp inRow
  have below : i < expected.rows.length :=
    Nat.lt_of_lt_of_eq (List.getElem?_eq_some_iff.mp left).1 counts
  have right := List.getElem?_eq_getElem below
  have width : row.length = expected.rows[i].length :=
    (actualWidth row inRows).trans (expectedWidth _ (List.getElem_mem below)).symm
  have below' : column < expected.rows[i].length :=
    Nat.lt_of_lt_of_eq (List.getElem?_eq_some_iff.mp atLeft).1 width
  have matching := rowsMatch_of_ordered actualFormed expectedFormed hasRows ordered left right
    column x _ atLeft (List.getElem?_eq_getElem below')
  exact matching.readable y

/-- Tables that pass as delivered are compared unordered without an error, once the rows of both
are put in some order. -/
theorem compare?_of_ordered (actualFormed : actual.validate = .ok ())
    (expectedFormed : expected.validate = .ok ()) (hasRows : expected.hasRows = true)
    (ordered : p.Passes actual expected true) {actualRows expectedRows : List IndexedRow}
    (sorted : orderIfNeeded? actual.rows expected.rows false = some (actualRows, expectedRows)) :
    ∃ c, p.compare? (.table actual) (.table expected) false = some (.ok c) := by
  obtain ⟨⟨columns, counts⟩, -⟩ :=
    (passes_iff_rowsMatch actualFormed expectedFormed hasRows rfl).mp ordered
  obtain ⟨actualPerm, expectedPerm⟩ := orderIfNeeded?_perm sorted
  have readable : ∀ pair ∈ cellPairs actualRows expectedRows,
      pair.actual.Readable pair.expected := by
    intro pair member
    obtain ⟨row, inRows, inRow⟩ := mem_of_mem_cellPairs member
    exact readable_of_ordered actualFormed expectedFormed hasRows ordered
      (values_mem (actualPerm.mem_iff.mp inRows)) inRow pair.expected
  have length : actualRows.length = expectedRows.length := by
    rw [actualPerm.length_eq, expectedPerm.length_eq, length_ofRows, length_ofRows]
    exact counts
  rw [compare?_eq_of_wellFormed actualFormed expectedFormed, tableVerdict?_of_hasRows hasRows,
    sorted, Option.map_some, compareGrid_eq columns length,
    compareCells_of_readable .empty readable]
  exact ⟨_, rfl⟩

/-- Tables that pass as delivered get no error unordered. Once their rows are put in some order,
they pass if and only if the rows match that face each other then, as they do if any two rows
compare alike on both sides. Rows whose keys are in a consistent order are put in order, and pass if
no two rows are out of order in one result only. -/
theorem unordered_of_ordered (p : Policy) (actual expected : Table)
    (actualFormed : actual.validate = .ok ()) (expectedFormed : expected.validate = .ok ())
    (ordered : p.Passes actual expected true) :
    (∀ answer, p.compare? (.table actual) (.table expected) false = some answer →
        ∃ c, answer = .ok c) ∧
      (∀ actualRows expectedRows,
        orderIfNeeded? actual.rows expected.rows false = some (actualRows, expectedRows) →
          (∃ c, p.compare? (.table actual) (.table expected) false = some (.ok c)) ∧
            (p.Passes actual expected false ↔
              ∀ rows ∈ actualRows.zip expectedRows, RowsMatch p rows.1.values rows.2.values) ∧
            (SameComparisons actual.rows expected.rows → p.Passes actual expected false)) ∧
      (HasConsistentKeys actual.rows → HasConsistentKeys expected.rows →
        (∃ actualRows expectedRows,
          orderIfNeeded? actual.rows expected.rows false = some (actualRows, expectedRows)) ∧
          (SameInversions actual.rows expected.rows → p.Passes actual expected false)) := by
  cases hasRows : expected.hasRows with
  | false =>
      -- Without expected rows nothing is sorted, and the order is not asked for.
      have unordered : p.Passes actual expected false := by
        rw [passes_iff_tableVerdict? actualFormed expectedFormed] at ordered ⊢
        unfold tableVerdict? at ordered ⊢
        rw [if_neg (Bool.not_eq_true _ ▸ hasRows)] at ordered ⊢
        exact ordered
      have ⟨c, compared, _⟩ := unordered
      have answered := compare_eq_ok_iff.mp compared
      have delivered : orderIfNeeded? actual.rows expected.rows false =
          some (ofRows actual.rows, ofRows expected.rows) := by
        rw [hasRows_eq_false_iff.mp hasRows]
        exact if_pos (Bool.or_true _)
      refine ⟨fun answer found => ⟨c, Option.some.inj (found.symm.trans answered)⟩,
        fun actualRows expectedRows sorted =>
          ⟨⟨c, answered⟩, ⟨fun _ => ?_, fun _ => unordered⟩, fun _ => unordered⟩,
        fun _ _ => ⟨⟨_, _, delivered⟩, fun _ => unordered⟩⟩
      cases delivered.symm.trans sorted
      rw [hasRows_eq_false_iff.mp hasRows, show ofRows [] = [] from rfl, List.zip_nil_right]
      exact List.forall_mem_nil _
  | true =>
      obtain ⟨⟨columns, counts⟩, matching⟩ :=
        (passes_iff_rowsMatch actualFormed expectedFormed hasRows rfl).mp ordered
      obtain ⟨actualWidth, expectedWidth⟩ := rowWidths actualFormed expectedFormed columns
      have pass : ∀ {actualRows expectedRows},
          orderIfNeeded? actual.rows expected.rows false = some (actualRows, expectedRows) →
          (p.Passes actual expected false ↔
            ∀ rows ∈ actualRows.zip expectedRows, RowsMatch p rows.1.values rows.2.values) :=
        fun sorted => (passes_iff_rowsMatch actualFormed expectedFormed hasRows sorted).trans
          (and_iff_right ⟨columns, counts⟩)
      refine ⟨fun answer found => ?_, fun actualRows expectedRows sorted =>
        ⟨compare?_of_ordered actualFormed expectedFormed hasRows ordered sorted, pass sorted,
          fun same => (pass sorted).mpr fun rows member => ?_⟩, fun actualKeys expectedKeys => ?_⟩
      · rw [compare?_eq_of_wellFormed actualFormed expectedFormed,
          tableVerdict?_of_hasRows hasRows] at found
        obtain ⟨verdict, decided, -⟩ := Option.map_eq_some_iff.mp found
        obtain ⟨⟨actualRows, expectedRows⟩, sorted, -⟩ := Option.map_eq_some_iff.mp decided
        obtain ⟨c, compared⟩ :=
          compare?_of_ordered actualFormed expectedFormed hasRows ordered sorted
        rw [compare?_eq_of_wellFormed actualFormed expectedFormed,
          tableVerdict?_of_hasRows hasRows, found] at compared
        exact ⟨c, Option.some.inj compared⟩
      · have aligned := orderIfNeeded?_zip_perm actualWidth expectedWidth counts same sorted
        exact matching rows (aligned.mem_iff.mp member)
      · have sorted := orderIfNeeded?_of_consistent actualWidth expectedWidth actualKeys
          expectedKeys counts
        refine ⟨⟨_, _, sorted⟩, fun inversions => (pass sorted).mpr fun rows member => ?_⟩
        exact matching rows ((sorted_zip_sorted_perm counts inversions).mem_iff.mp member)

/-- Two rows that match as delivered, in ascending order on both sides. -/
theorem unordered_of_ordered_two_rows :
    let one : Decimal := ⟨1, 0, by decide, by decide⟩
    let two : Decimal := ⟨2, 0, by decide, by decide⟩
    let three : Decimal := ⟨3, 0, by decide, by decide⟩
    let actual : Table :=
      ⟨["n", "s"], ["decimal", "string"], [[one, "a"], [three, "b"]], none, 0⟩
    let expected : Table :=
      ⟨["n", "s"], ["decimal", "string"], [[one, "a"], [two, "b"]], none, 0⟩
    (exact.withDivergence one).Passes actual expected true ∧
      (exact.withDivergence one).Passes actual expected false := by
  intro one two three actual expected
  have ordered : (exact.withDivergence one).Passes actual expected true := by decide +kernel
  have inversions : SameInversions actual.rows expected.rows := by
    intro i j a b e f less left right left' right'
    match i, j with
    | 0, 1 =>
        cases left
        cases right
        cases left'
        cases right'
        decide +kernel
    | i + 1, 1 => omega
    | _, j + 2 => cases right
  have unordered := unordered_of_ordered _ actual expected rfl rfl ordered
  exact ⟨ordered, (unordered.2.2 (by decide +kernel) (by decide +kernel)).2 inversions⟩

/-- Two rows whose numbers match within the divergence, but ascend on one side only. -/
theorem not_unordered_of_ordered :
    let one : Decimal := ⟨1, 0, by decide, by decide⟩
    let two : Decimal := ⟨2, 0, by decide, by decide⟩
    let actual : Table :=
      ⟨["n", "s"], ["decimal", "string"], [[one, "a"], [two, "b"]], none, 0⟩
    let expected : Table :=
      ⟨["n", "s"], ["decimal", "string"], [[two, "a"], [one, "b"]], none, 0⟩
    actual.validate = .ok () ∧ expected.validate = .ok () ∧
      (exact.withDivergence one).Passes actual expected true ∧
      ¬(exact.withDivergence one).Passes actual expected false := by
  refine ⟨rfl, rfl, ?_, ?_⟩ <;> decide +kernel

/-! ## Rows of one table in another order -/

theorem rowsMatch_self {row : Row} (plain : ∀ v ∈ row, v.IsPlain) : RowsMatch p row row := by
  intro column x y left right
  rw [left] at right
  cases right
  exact Value.matches_self (plain x (List.mem_of_getElem? left))

/-- Rows that face each other after sorting have equal keys, so they are one row or match. -/
theorem rowsMatch_of_perm {rows others : List Row} {width : Nat}
    (widths : ∀ row ∈ rows, row.length = width) (typed : HasTypedKeys rows)
    (plain : ∀ row ∈ rows, ∀ v ∈ row, v.IsPlain) (perm : others.Perm rows)
    (tied : ∀ (i j : Nat) (a b : Row), i ≠ j → rows[i]? = some a → rows[j]? = some b →
      TiedRows a b → RowsMatch p a b) :
    ∀ pair ∈ (sorted (ofRows others)).zip (sorted (ofRows rows)),
      RowsMatch p pair.1.values pair.2.values := by
  intro pair member
  have equalKeys :=
    forall_mem_zip_of_map_eq (map_rowKey_sorted_of_perm widths typed perm) pair member
  obtain ⟨left, right⟩ := List.of_mem_zip member
  have inRows : pair.1.values ∈ rows :=
    perm.mem_iff.mp (values_mem ((sorted_perm _).mem_iff.mp left))
  have inRows' : pair.2.values ∈ rows := values_mem ((sorted_perm _).mem_iff.mp right)
  by_cases same : pair.1.values = pair.2.values
  · rw [← same]
    exact rowsMatch_self (plain _ inRows)
  · obtain ⟨i, atI⟩ := List.mem_iff_getElem?.mp inRows
    obtain ⟨j, atJ⟩ := List.mem_iff_getElem?.mp inRows'
    have differ : i ≠ j := fun equal => same (Option.some.inj (atI.symm.trans (equal ▸ atJ)))
    exact tied i j _ _ differ atI atJ ((tiedRows_iff widths typed inRows inRows').mpr equalKeys)

/-- A table whose key columns hold values of one type each, and all of whose values match
themselves, passes against every reordering of its rows if and only if rows that are not told apart
by sorting match each other. -/
theorem passes_perm_iff (p : Policy) (expected : Table) (formed : expected.validate = .ok ())
    (hasRows : expected.hasRows = true)
    (noBlobs : ∀ type ∈ expected.columnTypes, Text.eqAsciiCase type "blob" = false)
    (plain : ∀ row ∈ expected.rows, ∀ v ∈ row, v.IsPlain) (typed : HasTypedKeys expected.rows) :
    (∀ rows : List Row, rows.Perm expected.rows →
        p.Passes { expected with rows } expected false) ↔
      ∀ (i j : Nat) (a b : Row), i ≠ j → expected.rows[i]? = some a → expected.rows[j]? = some b →
        TiedRows a b → RowsMatch p a b ∧ RowsMatch p b a := by
  obtain ⟨types, widths⟩ := validate_eq_ok_iff.mp formed
  have unordered : ∀ rows : List Row, rows.Perm expected.rows →
      (p.Passes { expected with rows } expected false ↔
        ∀ pair ∈ (sorted (ofRows rows)).zip (sorted (ofRows expected.rows)),
          RowsMatch p pair.1.values pair.2.values) := by
    intro rows perm
    have widths' := fun row member => widths row (perm.mem_iff.mp member)
    have ordered := orderIfNeeded?_of_consistent widths' widths
      (hasConsistentKeys_of_typed widths' (typed.of_perm perm))
      (hasConsistentKeys_of_typed widths typed) perm.length_eq
    have formed' : { expected with rows }.validate = .ok () :=
      validate_eq_ok_iff.mpr ⟨types, widths'⟩
    have shape : SameShape { expected with rows } expected :=
      ⟨compareColumns_self rows noBlobs, perm.length_eq⟩
    exact (passes_iff_rowsMatch formed' formed hasRows ordered).trans (and_iff_right shape)
  constructor
  · intro insensitive i j a b differ atI atJ tied
    have perm := exchange_perm atI atJ
    have matching := (unordered _ perm).mp (insensitive _ perm)
    obtain ⟨first, second⟩ := exchange_mem_zip atI atJ widths typed differ tied
    exact ⟨matching _ second, matching _ first⟩
  · intro tied rows perm
    refine (unordered rows perm).mpr (rowsMatch_of_perm widths typed plain perm ?_)
    intro i j a b differ atI atJ tiedRows
    exact (tied i j a b differ atI atJ tiedRows).1

/-- Two rows that only differ behind the key columns, and there within the divergence. -/
theorem passes_perm_two_rows :
    let one : Decimal := ⟨1, 0, by decide, by decide⟩
    let two : Decimal := ⟨2, 0, by decide, by decide⟩
    let first : Row := [.integer 7, "x", .null, one]
    let second : Row := [.integer 7, "x", .null, two]
    let expected : Table := ⟨["k", "l", "m", "n"], ["integer", "string", "string", "decimal"],
      [first, second], none, 0⟩
    TiedRows first second ∧ ∀ rows : List Row, rows.Perm expected.rows →
      (exact.withDivergence one).Passes { expected with rows } expected false := by
  intro one two first second expected
  have tied : TiedRows first second := by
    apply compareKeys_eq_iff.mp
    decide +kernel
  have matching : RowsMatch (exact.withDivergence one) first second ∧
      RowsMatch (exact.withDivergence one) second first := by
    constructor
    · rintro (_ | _ | _ | _ | column) x y left right <;> cases left <;> cases right
      all_goals decide +kernel
    · rintro (_ | _ | _ | _ | column) x y left right <;> cases left <;> cases right
      all_goals decide +kernel
  have plain : ∀ row ∈ expected.rows, ∀ v ∈ row, v.IsPlain := by
    simp [expected, first, second, Value.IsPlain]
  have typed : HasTypedKeys expected.rows := by
    rintro (_ | _ | _ | column) below
    · exact ⟨"integer", by simp [expected, first, second, Value.InColumn, Value.typeName]⟩
    · exact ⟨"string", by simp [expected, first, second, Value.InColumn, Value.typeName]⟩
    · exact ⟨"string", by simp [expected, first, second, Value.InColumn, Value.isNull]⟩
    · exact absurd below (by simp [keyColumns])
  refine ⟨tied, (passes_perm_iff _ expected rfl rfl (by decide) plain typed).mpr ?_⟩
  rintro (_ | _ | i) (_ | _ | j) a b differ atI atJ _ <;> cases atI <;> cases atJ
  · exact absurd rfl differ
  · exact matching
  · exact matching.symm
  · exact absurd rfl differ

end QueryRegression.Policy
