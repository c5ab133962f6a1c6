import QueryRegression.Proofs.TableShape

/-!
# The report of a grid

Where two tables have the same shape and every cell can be read, the verdict reports the mismatches
of the grid: it counts all of them and holds the first ones up to a limit, row by row, each with the
rows in which it stood when it was delivered. `Table.GridReport` says what that means, and
`Policy.compare_gridReport` proves it of every comparison.
-/

namespace QueryRegression

namespace Table

open IndexedRow

/-- The mismatch in the row and the column of the given indexes. -/
def failureAt? (policy : Policy) (actual expected : List IndexedRow) (place : Nat × Nat) :
    Option Failure :=
  (facing? actual expected place).bind (CellPair.failure? policy)

/-- A failure tells of a mismatch of two rows that face each other. It bears their place, and the
rows that were delivered in the places it names hold the same values. -/
def TracesBack (policy : Policy) (actualRows expectedRows : List Row)
    (actual expected : List IndexedRow) (failure : Failure) : Prop :=
  ∃ (row column : Nat) (a e : IndexedRow) (x y : Value) (m : Mismatch),
    actual[row]? = some a ∧ expected[row]? = some e ∧ a.values[column]? = some x ∧
    e.values[column]? = some y ∧ m.position.compareCell policy x y = .ok (some failure) ∧
    failure.kind = .cell ∧ failure.mismatch = some m ∧ m.row = row + 1 ∧ m.column = column + 1 ∧
    m.actualDeliveredRow = a.index + 1 ∧ m.expectedDeliveredRow = e.index + 1 ∧
    actualRows[m.actualDeliveredRow - 1]? = some a.values ∧
    expectedRows[m.expectedDeliveredRow - 1]? = some e.values

/-- What a verdict tells of the cells of two results that face each other in the given order. -/
structure GridReport (policy : Policy) (actualRows expectedRows : List Row)
    (actual expected : List IndexedRow) (columns : Nat) (verdict : Verdict) : Prop where
  /-- There are two cells at every place of the grid. -/
  facing : ∀ row < actual.length, ∀ column < columns,
    (facing? actual expected (row, column)).isSome
  /-- Every mismatch counts. -/
  total : verdict.totalFailures = (places actual.length columns).countP fun place =>
    (failureAt? policy actual expected place).isSome
  pass_iff : verdict = .pass ↔ verdict.totalFailures = 0
  failed_iff : (∃ failure, verdict = .failed failure) ↔ verdict.totalFailures = 1
  multiFailed_iff : (∃ log, verdict = .multiFailed log) ↔ 2 ≤ verdict.totalFailures
  /-- The first mismatches are held, row by row. -/
  stored : verdict.stored =
    ((places actual.length columns).filterMap (failureAt? policy actual expected)).take
      FailureLog.limit
  /-- What is held is shown, save that the last one gives way if there are more. -/
  shown : verdict.failures =
    if verdict.totalFailures ≤ FailureLog.limit then verdict.stored
    else verdict.stored.take (FailureLog.limit - 1) ++ [.general .truncated
      (FailureLog.moreFailures (verdict.totalFailures - FailureLog.limit))]
  /-- Each is held once, and row by row. -/
  rowMajor : verdict.stored.Pairwise fun first second => ∀ m n, first.mismatch = some m →
    second.mismatch = some n → Precedes (m.row, m.column) (n.row, n.column)
  tracesBack : ∀ failure ∈ verdict.stored,
    TracesBack policy actualRows expectedRows actual expected failure
  actualOrder : IsReordering actualRows actual
  expectedOrder : IsReordering expectedRows expected

variable {policy : Policy} {actualRows expectedRows : List Row} {actual expected : List IndexedRow}

theorem failureAt?_eq_some {row column : Nat} {failure : Failure}
    (found : failureAt? policy actual expected (row, column) = some failure) :
    ∃ a e x y, actual[row]? = some a ∧ expected[row]? = some e ∧ a.values[column]? = some x ∧
      e.values[column]? = some y ∧ CellPosition.compareCell policy
        ⟨row + 1, column + 1, a.index + 1, e.index + 1⟩ x y = .ok (some failure) := by
  obtain ⟨pair, facing, failed⟩ := Option.bind_eq_some_iff.mp found
  obtain ⟨a, e, x, y, actualRow, expectedRow, atLeft, atRight, rfl⟩ :=
    facing?_eq_some_iff.mp facing
  refine ⟨a, e, x, y, actualRow, expectedRow, atLeft, atRight, ?_⟩
  unfold CellPair.failure? at failed
  split at failed
  next found compared => rw [compared, failed]
  next => cases failed

theorem failureAt?_place {row column : Nat} {failure : Failure} {m : Mismatch}
    (found : failureAt? policy actual expected (row, column) = some failure)
    (mismatch : failure.mismatch = some m) : m.row = row + 1 ∧ m.column = column + 1 := by
  obtain ⟨a, e, x, y, -, -, -, -, compared⟩ := failureAt?_eq_some found
  have placed := (CellPosition.compareCell_isAt compared).2
  rw [mismatch, Option.map_some, Option.some.injEq] at placed
  exact ⟨congrArg CellPosition.row placed, congrArg CellPosition.column placed⟩

theorem tracesBack_of_failureAt? (actualOrder : IsReordering actualRows actual)
    (expectedOrder : IsReordering expectedRows expected) {row column : Nat} {failure : Failure}
    (found : failureAt? policy actual expected (row, column) = some failure) :
    TracesBack policy actualRows expectedRows actual expected failure := by
  obtain ⟨a, e, x, y, actualRow, expectedRow, atLeft, atRight, compared⟩ :=
    failureAt?_eq_some found
  obtain ⟨kind, placed⟩ := CellPosition.compareCell_isAt compared
  obtain ⟨m, mismatch, position⟩ := Option.map_eq_some_iff.mp placed
  refine ⟨row, column, a, e, x, y, m, actualRow, expectedRow, atLeft, atRight, ?_, kind, mismatch,
    congrArg CellPosition.row position, congrArg CellPosition.column position,
    congrArg CellPosition.actualDeliveredRow position,
    congrArg CellPosition.expectedDeliveredRow position, ?_, ?_⟩
  · rw [position]
    exact compared
  · have delivered := congrArg CellPosition.actualDeliveredRow position
    dsimp only [Mismatch.position] at delivered
    rw [delivered]
    exact actualOrder.delivered row a actualRow
  · have delivered := congrArg CellPosition.expectedDeliveredRow position
    dsimp only [Mismatch.position] at delivered
    rw [delivered]
    exact expectedOrder.delivered row e expectedRow

/-- The mismatches at the places of the grid are the failures of the cells that face each other. -/
theorem filterMap_failureAt?_places (policy : Policy) {columns : Nat}
    (length : actual.length = expected.length)
    (actualWidth : ∀ row ∈ actual, row.values.length = columns)
    (expectedWidth : ∀ row ∈ expected, row.values.length = columns) :
    (places actual.length columns).filterMap (failureAt? policy actual expected) =
      (cellPairs actual expected).filterMap (CellPair.failure? policy) := by
  have mapped := congrArg (List.filterMap (Option.bind · (CellPair.failure? policy)))
    (map_facing?_places length actualWidth expectedWidth)
  rw [List.filterMap_map, List.filterMap_map] at mapped
  exact mapped

/-- The verdict on the failures of the cells that face each other reports the grid. -/
theorem gridReport_of_cellPairs {columns : Nat} (length : actual.length = expected.length)
    (actualWidth : ∀ row ∈ actual, row.values.length = columns)
    (expectedWidth : ∀ row ∈ expected, row.values.length = columns)
    (actualOrder : IsReordering actualRows actual)
    (expectedOrder : IsReordering expectedRows expected) :
    GridReport policy actualRows expectedRows actual expected columns
      (FailureLog.ofList
        ((cellPairs actual expected).filterMap (CellPair.failure? policy))).verdict := by
  have found := filterMap_failureAt?_places policy length actualWidth expectedWidth
  rw [← found]
  have total := FailureLog.totalFailures_verdict
    ((places actual.length columns).filterMap (failureAt? policy actual expected))
  have stored := FailureLog.stored_verdict
    ((places actual.length columns).filterMap (failureAt? policy actual expected))
  refine {
    facing := fun row inRows column inColumns => ?_
    total := total.trans (by rw [List.length_filterMap_eq_countP])
    pass_iff := by rw [FailureLog.verdict_eq_pass_iff, total]
    failed_iff := by rw [FailureLog.verdict_eq_failed_iff, total]
    multiFailed_iff := by rw [FailureLog.verdict_eq_multiFailed_iff, total]
    stored := stored
    shown := ?_
    rowMajor := ?_
    tracesBack := fun failure member => ?_
    actualOrder := actualOrder
    expectedOrder := expectedOrder }
  · have mapped := List.mem_map_of_mem (f := facing? actual expected)
      (mem_places.mpr ⟨inRows, inColumns⟩ : (row, column) ∈ places actual.length columns)
    rw [map_facing?_places length actualWidth expectedWidth] at mapped
    obtain ⟨pair, -, equal⟩ := List.mem_map.mp mapped
    rw [← equal]
    rfl
  · rw [FailureLog.failures_verdict, total, stored]
    split
    next few => exact (List.take_of_length_le few).symm
    next => rw [List.take_take, Nat.min_eq_left (Nat.sub_le _ _)]
  · rw [stored]
    refine List.Pairwise.sublist (List.take_sublist _ _) (List.pairwise_filterMap.mpr ?_)
    apply (places_pairwise _ _).imp
    intro first second before f atFirst g atSecond m n left right
    obtain ⟨row, column⟩ := failureAt?_place atFirst left
    obtain ⟨row', column'⟩ := failureAt?_place atSecond right
    unfold Precedes at before ⊢
    omega
  · rw [stored] at member
    obtain ⟨⟨row, column⟩, -, atPlace⟩ := List.mem_filterMap.mp (List.mem_of_mem_take member)
    exact tracesBack_of_failureAt? actualOrder expectedOrder atPlace

end Table

namespace Policy

open Table IndexedRow

/-- Tables of one shape of which every cell can be read get a verdict that reports their grid. -/
theorem compare_gridReport (p : Policy) (actual expected : Table) (isOrdered : Bool)
    (actualRows expectedRows : List IndexedRow)
    (ordered : orderIfNeeded? actual.rows expected.rows isOrdered = some (actualRows, expectedRows))
    (actualFormed : actual.validate = .ok ()) (expectedFormed : expected.validate = .ok ())
    (hasRows : expected.hasRows = true) (columns : compareColumns actual expected = none)
    (counts : actual.rowCount = expected.rowCount)
    (readable : ∀ place pair, facing? actualRows expectedRows place = some pair →
      pair.actual.Readable pair.expected) :
    ∃ verdict, p.compare (.table actual) (.table expected) isOrdered = .ok ⟨verdict,
        (p.timeExcess? actual.executionTime expected.executionTime).map (.general .executionTime)⟩ ∧
      GridReport p actual.rows expected.rows actualRows expectedRows expected.columnCount
        verdict := by
  obtain ⟨actualPerm, expectedPerm⟩ := orderIfNeeded?_perm ordered
  obtain ⟨actualOrder, expectedOrder⟩ := orderIfNeeded?_isReordering ordered
  obtain ⟨actualWidth, expectedWidth⟩ := rowWidths actualFormed expectedFormed columns
  have length : actualRows.length = expectedRows.length := by
    rw [actualPerm.length_eq, expectedPerm.length_eq, length_ofRows, length_ofRows]
    exact counts
  have actualWidth' : ∀ row ∈ actualRows, row.values.length = expected.columnCount :=
    fun row member => actualWidth _ (values_mem (actualPerm.mem_iff.mp member))
  have expectedWidth' : ∀ row ∈ expectedRows, row.values.length = expected.columnCount :=
    fun row member => expectedWidth _ (values_mem (expectedPerm.mem_iff.mp member))
  have readable' : ∀ pair ∈ cellPairs actualRows expectedRows,
      pair.actual.Readable pair.expected := by
    intro pair member
    have mapped := List.mem_map_of_mem (f := some) member
    rw [← map_facing?_places length actualWidth' expectedWidth'] at mapped
    obtain ⟨place, -, facing⟩ := List.mem_map.mp mapped
    exact readable place pair facing
  refine ⟨_, compare_eq_ok_iff.mpr ?_, gridReport_of_cellPairs length actualWidth' expectedWidth'
    actualOrder expectedOrder⟩
  rw [compare?_eq_of_wellFormed actualFormed expectedFormed, tableVerdict?_of_hasRows hasRows,
    ordered, Option.map_some, compareGrid_eq columns length,
    compareCells_of_readable .empty readable']
  rfl

/-- Two rows, of which the second actual one is sorted to the front, and a large object that is
read. -/
theorem compare_gridReport_two_rows :
    let blob : Value := .largeObject .blob ⟨0, .ok [120]⟩
    let actual : Table :=
      ⟨["n", "b"], ["integer", "blob"], [[.integer 2, blob], [.integer 1, .null]], none, 0⟩
    let expected : Table := ⟨["n", "b"], ["integer", "byte[]"],
      [[.integer 1, .null], [.integer 3, .text "y"]], none, 0⟩
    ∃ verdict, exact.compare (.table actual) (.table expected) false = .ok ⟨verdict, none⟩ ∧
      GridReport exact actual.rows expected.rows
        [⟨1, [.integer 1, .null]⟩, ⟨0, [.integer 2, blob]⟩]
        [⟨0, [.integer 1, .null]⟩, ⟨1, [.integer 3, .text "y"]⟩] 2 verdict := by
  refine compare_gridReport exact _ _ false _ _ rfl rfl rfl rfl (by decide) rfl ?_
  rintro ⟨row, column⟩ pair facing
  obtain ⟨a, e, x, y, actualRow, -, atLeft, -, rfl⟩ := facing?_eq_some_iff.mp facing
  have inRow := List.mem_of_getElem? atLeft
  have inRows := List.mem_of_getElem? actualRow
  simp only [List.mem_cons, List.not_mem_nil, or_false] at inRows
  rcases inRows with rfl | rfl
  · simp only [List.mem_cons, List.not_mem_nil, or_false] at inRow
    rcases inRow with rfl | rfl
    · exact Value.readable_of_not_largeObject rfl y
    · exact Value.readable_of_not_largeObject rfl y
  · simp only [List.mem_cons, List.not_mem_nil, or_false] at inRow
    rcases inRow with rfl | rfl
    · exact Value.readable_of_not_largeObject rfl y
    · exact fun _ _ => ⟨some (Text.Base64.encode [120]), rfl⟩

end Policy
end QueryRegression
