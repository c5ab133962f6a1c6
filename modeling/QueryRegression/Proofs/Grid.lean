import QueryRegression.Compare.Grid
import QueryRegression.Proofs.CellMatch
import QueryRegression.Proofs.FailureLog

/-!
# The comparison of a grid, cell by cell

* `Table.compareCells_eq_ok_iff`: cells are compared to the end if and only if each can be read, and
  the log then holds the failures of the cells in their order.
* `Table.compareCells_pass_iff`: nothing is found if and only if all cells match.
* `Table.map_facing?_places`: the cells that face each other, row by row, are those at the places of
  the grid.
* `Table.compareGrid_pass_iff`: a grid passes if and only if it has the expected shape and its rows
  match those that they face.
-/

namespace QueryRegression

/-- The failure of two cells that face each other. Where they cannot be read there is none. -/
def CellPair.failure? (policy : Policy) (pair : CellPair) : Option Failure :=
  match pair.position.compareCell policy pair.actual pair.expected with
  | .ok found => found
  | .error _ => none

namespace Table

variable {policy : Policy}

theorem compareCell_eq_ok {pair : CellPair} (readable : pair.actual.Readable pair.expected) :
    pair.position.compareCell policy pair.actual pair.expected = .ok (pair.failure? policy) := by
  obtain ⟨found, equal⟩ := (Value.readable_iff policy pair.position).mp readable
  rw [CellPair.failure?, equal]

theorem failure?_eq_none_iff {pair : CellPair} (readable : pair.actual.Readable pair.expected) :
    pair.failure? policy = none ↔ pair.actual.Matches policy pair.expected := by
  rw [Value.matches_iff pair.position, compareCell_eq_ok readable, Except.ok.injEq]

/-! ## Cells -/

theorem compareCells_of_readable {pairs : List CellPair} (log : FailureLog)
    (readable : ∀ pair ∈ pairs, pair.actual.Readable pair.expected) :
    compareCells policy log pairs =
      .ok ((pairs.filterMap (CellPair.failure? policy)).foldl .add log) := by
  induction pairs generalizing log with
  | nil => rfl
  | cons pair pairs ih =>
      obtain ⟨head, tail⟩ := List.forall_mem_cons.mp readable
      rw [compareCells, compareCell_eq_ok head]
      cases found : pair.failure? policy with
      | none => rw [List.filterMap_cons_none found]; exact ih log tail
      | some failure => rw [List.filterMap_cons_some found]; exact ih (log.add failure) tail

theorem readable_of_compareCells {pairs : List CellPair} {log log' : FailureLog}
    (compared : compareCells policy log pairs = .ok log') :
    ∀ pair ∈ pairs, pair.actual.Readable pair.expected := by
  induction pairs generalizing log with
  | nil => exact List.forall_mem_nil _
  | cons pair pairs ih =>
      rw [compareCells] at compared
      rw [List.forall_mem_cons]
      cases cell : pair.position.compareCell policy pair.actual pair.expected with
      | error fault => rw [cell] at compared; cases compared
      | ok found =>
          refine ⟨(Value.readable_iff policy pair.position).mpr ⟨found, cell⟩, ?_⟩
          rw [cell] at compared
          cases found with
          | none => exact ih compared
          | some failure => exact ih compared

/-- Cells are compared to the end if and only if each can be read. The log then holds their failures
in the order of the cells. -/
theorem compareCells_eq_ok_iff {pairs : List CellPair} {log : FailureLog} :
    compareCells policy .empty pairs = .ok log ↔
      (∀ pair ∈ pairs, pair.actual.Readable pair.expected) ∧
        log = .ofList (pairs.filterMap (CellPair.failure? policy)) := by
  constructor
  · intro compared
    have readable := readable_of_compareCells compared
    rw [compareCells_of_readable .empty readable] at compared
    exact ⟨readable, (Except.ok.inj compared).symm⟩
  · rintro ⟨readable, rfl⟩
    exact compareCells_of_readable .empty readable

/-- Nothing is found if and only if every cell matches. -/
theorem compareCells_pass_iff {pairs : List CellPair} :
    (∃ log, compareCells policy .empty pairs = .ok log ∧ log.verdict = .pass) ↔
      ∀ pair ∈ pairs, pair.actual.Matches policy pair.expected := by
  constructor
  · rintro ⟨log, compared, pass⟩ pair member
    obtain ⟨readable, rfl⟩ := compareCells_eq_ok_iff.mp compared
    rw [FailureLog.verdict_eq_pass_iff, List.length_eq_zero_iff, List.filterMap_eq_nil_iff] at pass
    exact (failure?_eq_none_iff (readable pair member)).mp (pass pair member)
  · intro matching
    have readable : ∀ pair ∈ pairs, pair.actual.Readable pair.expected := fun pair member =>
      (matching pair member).readable pair.expected
    refine ⟨_, compareCells_eq_ok_iff.mpr ⟨readable, rfl⟩, ?_⟩
    rw [FailureLog.verdict_eq_pass_iff, List.length_eq_zero_iff, List.filterMap_eq_nil_iff]
    intro pair member
    exact (failure?_eq_none_iff (readable pair member)).mpr (matching pair member)

/-! ## Places -/

/-- The cells that face each other in the row and the column of the given indexes. -/
def facing? (actual expected : List IndexedRow) (place : Nat × Nat) : Option CellPair := do
  let actualRow ← actual[place.1]?
  let expectedRow ← expected[place.1]?
  let a ← actualRow.values[place.2]?
  let e ← expectedRow.values[place.2]?
  return ⟨⟨place.1 + 1, place.2 + 1, actualRow.index + 1, expectedRow.index + 1⟩, a, e⟩

/-- The indexes of rows and columns of a grid, row by row. -/
def places (rows columns : Nat) : List (Nat × Nat) :=
  (List.range rows).flatMap fun row => (List.range columns).map fun column => (row, column)

theorem mem_places {rows columns : Nat} {place : Nat × Nat} :
    place ∈ places rows columns ↔ place.1 < rows ∧ place.2 < columns := by
  obtain ⟨row, column⟩ := place
  simp [places]

/-- Whether a place comes before another one, row by row. -/
def Precedes (first second : Nat × Nat) : Prop :=
  first.1 < second.1 ∨ first.1 = second.1 ∧ first.2 < second.2

/-- Every place is listed once, row by row. -/
theorem places_pairwise (rows columns : Nat) : (places rows columns).Pairwise Precedes := by
  unfold places
  rw [List.pairwise_flatMap]
  constructor
  · intro row _
    rw [List.pairwise_map]
    exact List.pairwise_lt_range.imp fun less => .inr ⟨rfl, less⟩
  · refine List.pairwise_lt_range.imp fun less first inFirst second inSecond => ?_
    obtain ⟨_, -, rfl⟩ := List.mem_map.mp inFirst
    obtain ⟨_, -, rfl⟩ := List.mem_map.mp inSecond
    exact .inl less

/-! ## Cells that face each other -/

theorem facing?_eq_some_iff {actual expected : List IndexedRow} {row column : Nat}
    {pair : CellPair} :
    facing? actual expected (row, column) = some pair ↔
      ∃ a e x y, actual[row]? = some a ∧ expected[row]? = some e ∧ a.values[column]? = some x ∧
        e.values[column]? = some y ∧
        pair = ⟨⟨row + 1, column + 1, a.index + 1, e.index + 1⟩, x, y⟩ := by
  simp only [facing?, Option.bind_eq_bind, Option.bind_eq_some_iff, Option.pure_def,
    Option.some.injEq, @eq_comm _ _ pair, exists_and_left]

theorem map_range_eq {α : Type} {f : Nat → α} {xs : List α} {n : Nat} (length : xs.length = n)
    (entries : ∀ i < n, xs[i]? = some (f i)) : (List.range n).map f = xs := by
  refine List.ext_getElem (by rw [List.length_map, List.length_range, length]) ?_
  intro i _ below
  have entry := entries i (Nat.lt_of_lt_of_eq below length)
  rw [List.getElem?_eq_getElem below] at entry
  rw [List.getElem_map, List.getElem_range]
  exact (Option.some.inj entry).symm

/-- The cells of two rows are those at the places of one row of the grid. -/
theorem map_facing?_row {actual expected : List IndexedRow} {row width : Nat} {a e : IndexedRow}
    (actualRow : actual[row]? = some a) (expectedRow : expected[row]? = some e)
    (actualWidth : a.values.length = width) (expectedWidth : e.values.length = width) :
    ((List.range width).map fun column => facing? actual expected (row, column)) =
      (rowPairs (row + 1) a e).map some := by
  refine map_range_eq ?_ fun column below => ?_
  · rw [rowPairs, List.length_map, List.length_map, List.length_zipIdx, List.length_zip,
      actualWidth, expectedWidth, Nat.min_self]
  · have left := List.getElem?_eq_getElem (Nat.lt_of_lt_of_eq below actualWidth.symm)
    have right := List.getElem?_eq_getElem (Nat.lt_of_lt_of_eq below expectedWidth.symm)
    have both := (List.getElem?_zip_eq_some (z := (_, _))).mpr ⟨left, right⟩
    rw [rowPairs, List.getElem?_map, List.getElem?_map, List.getElem?_zipIdx, both, Nat.zero_add]
    exact congrArg some
      (facing?_eq_some_iff.mpr ⟨a, e, _, _, actualRow, expectedRow, left, right, rfl⟩).symm

/-- The cells that face each other, row by row, are those at the places of the grid. -/
theorem map_facing?_places {actual expected : List IndexedRow} {width : Nat}
    (length : actual.length = expected.length)
    (actualWidth : ∀ row ∈ actual, row.values.length = width)
    (expectedWidth : ∀ row ∈ expected, row.values.length = width) :
    (places actual.length width).map (facing? actual expected) =
      (cellPairs actual expected).map some := by
  rw [places, cellPairs, List.map_flatMap, List.map_flatMap, List.flatMap_def, List.flatMap_def]
  refine congrArg List.flatten (map_range_eq ?_ fun row below => ?_)
  · rw [List.length_map, List.length_zipIdx, List.length_zip, length, Nat.min_self]
  · have left := List.getElem?_eq_getElem below
    have right := List.getElem?_eq_getElem (Nat.lt_of_lt_of_eq below length)
    have both := (List.getElem?_zip_eq_some (z := (_, _))).mpr ⟨left, right⟩
    rw [List.getElem?_map, List.getElem?_zipIdx, both, Nat.zero_add, List.map_map]
    exact congrArg some (map_facing?_row left right (actualWidth _ (List.getElem_mem _))
      (expectedWidth _ (List.getElem_mem _))).symm

/-- Every value of the actual row matches the expected value of the same column. -/
def RowsMatch (policy : Policy) (actual expected : Row) : Prop :=
  ∀ (column : Nat) (x y : Value), actual[column]? = some x → expected[column]? = some y →
    x.Matches policy y

theorem rowPairs_match_iff {row : Nat} {a e : IndexedRow} :
    (∀ pair ∈ rowPairs row a e, pair.actual.Matches policy pair.expected) ↔
      RowsMatch policy a.values e.values := by
  unfold rowPairs RowsMatch
  simp only [List.forall_mem_map]
  constructor
  · intro matching column x y atLeft atRight
    refine matching ((x, y), column) ?_
    rw [List.mem_zipIdx_iff_getElem?, List.getElem?_zip_eq_some]
    exact ⟨atLeft, atRight⟩
  · rintro matching ⟨⟨x, y⟩, column⟩ member
    rw [List.mem_zipIdx_iff_getElem?, List.getElem?_zip_eq_some] at member
    exact matching column x y member.1 member.2

/-- All cells that face each other match if and only if the rows do that face each other. -/
theorem cellPairs_match_iff {actual expected : List IndexedRow} :
    (∀ pair ∈ cellPairs actual expected, pair.actual.Matches policy pair.expected) ↔
      ∀ rows ∈ actual.zip expected, RowsMatch policy rows.1.values rows.2.values := by
  unfold cellPairs
  rw [List.forall_mem_flatMap]
  constructor
  · intro matching rows member
    obtain ⟨row, found⟩ := List.mem_iff_getElem?.mp member
    exact rowPairs_match_iff.mp (matching (rows, row) (List.mem_zipIdx_iff_getElem?.mpr found))
  · rintro matching ⟨rows, row⟩ member
    exact rowPairs_match_iff.mpr (matching rows (List.fst_mem_of_mem_zipIdx member))

theorem mem_of_mem_cellPairs {actual expected : List IndexedRow} {pair : CellPair}
    (member : pair ∈ cellPairs actual expected) : ∃ row ∈ actual, pair.actual ∈ row.values := by
  obtain ⟨⟨⟨a, e⟩, row⟩, inRows, inRow⟩ := List.mem_flatMap.mp member
  obtain ⟨⟨⟨x, y⟩, column⟩, inCells, rfl⟩ := List.mem_map.mp inRow
  exact ⟨a, (List.of_mem_zip (List.fst_mem_of_mem_zipIdx inRows)).1,
    (List.of_mem_zip (List.fst_mem_of_mem_zipIdx inCells)).1⟩

/-! ## Grids -/

theorem compareRowCounts_eq_none_iff {actual expected : Nat} :
    compareRowCounts actual expected = none ↔ actual = expected := by
  unfold compareRowCounts
  split
  next fewer => exact ⟨nofun, fun equal => absurd equal (Nat.ne_of_lt fewer)⟩
  next =>
    split
    next more => exact ⟨nofun, fun equal => absurd equal.symm (Nat.ne_of_lt more)⟩
    next => exact ⟨fun _ => by omega, fun _ => rfl⟩

/-- Grids of one shape get the verdict of the log of their cells. -/
theorem compareGrid_eq {actual expected : Table} {actualRows expectedRows : List IndexedRow}
    (columns : compareColumns actual expected = none)
    (length : actualRows.length = expectedRows.length) :
    compareGrid policy actual actualRows expected expectedRows =
      (compareCells policy .empty (cellPairs actualRows expectedRows)).map FailureLog.verdict := by
  rw [compareGrid, columns, compareRowCounts_eq_none_iff.mpr length]
  cases compareCells policy .empty (cellPairs actualRows expectedRows) <;> rfl

/-- A grid passes only if the columns agree and there are equally many rows. -/
theorem shape_of_compareGrid_pass {actual expected : Table}
    {actualRows expectedRows : List IndexedRow}
    (pass : compareGrid policy actual actualRows expected expectedRows = .ok .pass) :
    compareColumns actual expected = none ∧ actualRows.length = expectedRows.length := by
  unfold compareGrid at pass
  cases columns : compareColumns actual expected with
  | some failure => rw [columns] at pass; cases pass
  | none =>
      cases counts : compareRowCounts actualRows.length expectedRows.length with
      | some failure => rw [columns, counts] at pass; cases pass
      | none => exact ⟨rfl, compareRowCounts_eq_none_iff.mp counts⟩

/-- A grid passes if and only if it has the expected shape and its rows match those that they
face. -/
theorem compareGrid_pass_iff {actual expected : Table} {actualRows expectedRows : List IndexedRow} :
    compareGrid policy actual actualRows expected expectedRows = .ok .pass ↔
      compareColumns actual expected = none ∧ actualRows.length = expectedRows.length ∧
        ∀ rows ∈ actualRows.zip expectedRows, RowsMatch policy rows.1.values rows.2.values := by
  rw [← cellPairs_match_iff, ← compareCells_pass_iff]
  constructor
  · intro pass
    obtain ⟨columns, length⟩ := shape_of_compareGrid_pass pass
    refine ⟨columns, length, ?_⟩
    rw [compareGrid_eq columns length] at pass
    cases compared : compareCells policy .empty (cellPairs actualRows expectedRows) with
    | error e => rw [compared] at pass; cases pass
    | ok log =>
        rw [compared] at pass
        exact ⟨log, rfl, Except.ok.inj pass⟩
  · rintro ⟨columns, length, log, compared, pass⟩
    rw [compareGrid_eq columns length, compared]
    exact congrArg Except.ok pass

end Table
end QueryRegression
