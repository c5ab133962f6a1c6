import QueryRegression.Proofs.ComparisonOrder
import QueryRegression.Proofs.TableShape

/-!
# Comparisons that cannot be carried out

A comparison ends in an error, and not in a verdict, in three cases only: an expected message is no
regular expression for the library that is used, a table is malformed, or a large object of the
actual result cannot be read. `ComparisonFault` lists them with the error that each of them gives.
A comparison does not end at all where a sort of the rows breaks off, as it does for
`IndexedRow.unsortableTable`; `BreaksOff` says so. `Policy.compareUsing?_eq_error_iff` says that
there are no other cases. What the large objects of the expected result hold makes no difference
(`Policy.compareUsing?_withContents`).
-/

namespace QueryRegression

/-- A step that cannot fail adds no error. -/
theorem map_eq_error_iff {ε α β : Type} {f : α → β} {x : Except ε α} {e : ε} :
    x.map f = .error e ↔ x = .error e := by
  cases x with
  | ok a => exact ⟨nofun, nofun⟩
  | error reason => exact ⟨fun same => by cases same; rfl, fun same => by cases same; rfl⟩

/-! ## Large objects that cannot be read -/

namespace Value

/-- The value is a large object whose content cannot be had, or is not the text that it should
be. -/
inductive Unreadable : Value → LargeObjectFault → Prop
  | refused {kind o fault} : o.content = .error fault →
      Unreadable (.largeObject kind o) (.unreadable kind fault)
  | notText {kind o bytes fault} : kind ≠ .blob → o.content = .ok bytes →
      Text.Utf8.decode bytes = .error fault →
      Unreadable (.largeObject kind o) (.unreadable kind (.notText fault))

variable {policy : Policy} {actual expected : Value} {fault : LargeObjectFault}

theorem readText_eq {o : LargeObject} :
    o.readText = o.content.bind fun bytes => (Text.Utf8.decode bytes).mapError .notText := rfl

theorem readLargeObject_of_text {kind : LargeObjectKind} (text : kind ≠ .blob) (o : LargeObject) :
    readLargeObject kind o = o.readText.mapError (.unreadable kind) := by
  cases kind with
  | clob | xml => rfl
  | blob => exact absurd rfl text

theorem readLargeObject_eq_error_iff {kind : LargeObjectKind} {o : LargeObject} :
    readLargeObject kind o = .error fault ↔ Unreadable (.largeObject kind o) fault := by
  by_cases blob : kind = .blob
  · subst blob
    have read : readLargeObject .blob o =
        (o.content.map Text.Base64.encode).mapError (.unreadable .blob) := rfl
    rw [read]
    constructor
    · intro failed
      cases content : o.content with
      | ok bytes => rw [content] at failed; cases failed
      | error reason =>
          rw [content] at failed
          cases failed
          exact .refused content
    · rintro (content | ⟨text, -, -⟩)
      · rw [content]
        rfl
      · exact absurd rfl text
  · rw [readLargeObject_of_text blob, readText_eq]
    constructor
    · intro failed
      cases content : o.content with
      | error reason =>
          rw [content] at failed
          cases failed
          exact .refused content
      | ok bytes =>
          cases decoded : Text.Utf8.decode bytes with
          | ok s =>
              rw [content, Except.bind, decoded] at failed
              cases failed
          | error reason =>
              rw [content, Except.bind, decoded] at failed
              cases failed
              exact .notText blob content decoded
    · rintro (content | ⟨-, content, decoded⟩)
      · rw [content]
        rfl
      · rw [content, Except.bind, decoded]
        rfl

/-- Only an unreadable large object has no text. -/
theorem textForm?_eq_error_iff : actual.textForm? = .error fault ↔ actual.Unreadable fault := by
  cases actual with
  | largeObject kind o =>
      rw [← readLargeObject_eq_error_iff, textForm?]
      cases readLargeObject kind o <;> simp [Except.map]
  | _ => exact ⟨nofun, nofun⟩

/-- Two cells cannot be compared if and only if the actual one cannot be read and faces a value. A
null is not compared with what it faces. -/
theorem compareCell_eq_error_iff {p : CellPosition} :
    p.compareCell policy actual expected = .error fault ↔
      expected.isNull = false ∧ actual.Unreadable fault := by
  rw [← textForm?_eq_error_iff]
  unfold CellPosition.compareCell
  cases left : actual.isNull with
  | true =>
      -- A null is no large object.
      have form : actual.textForm? = .ok none := by
        cases actual <;> first | rfl | cases left
      rw [form]
      cases expected.isNull <;> exact ⟨nofun, nofun⟩
  | false =>
      cases expected.isNull with
      | true => exact ⟨nofun, nofun⟩
      | false =>
          unfold normalize
          rw [and_iff_right rfl]
          cases actual.textForm? with
          | error reason =>
              constructor <;> rintro ⟨⟩ <;> rfl
          | ok form => cases form <;> exact ⟨nofun, nofun⟩

end Value

/-! ## The first large object that cannot be read -/

/-- The cells cannot be compared, because the actual one cannot be read and faces a value. -/
def CellPair.IsBlocked (pair : CellPair) (fault : LargeObjectFault) : Prop :=
  pair.expected.isNull = false ∧ pair.actual.Unreadable fault

namespace Table

variable {policy : Policy}

theorem compareCells_cons_of_ok {first : CellPair} {found : Option Failure}
    (cell : first.position.compareCell policy first.actual first.expected = .ok found)
    (log : FailureLog) (rest : List CellPair) :
    compareCells policy log (first :: rest) =
      compareCells policy (found.elim log log.add) rest := by
  rw [compareCells, cell]
  cases found <;> rfl

/-- Cells are compared up to the first that cannot be. -/
theorem compareCells_eq_error_iff {pairs : List CellPair} {log : FailureLog} {e : Error} :
    compareCells policy log pairs = .error e ↔
      ∃ before pair after fault, pairs = before ++ pair :: after ∧
        (∀ other ∈ before, ∀ f, ¬other.IsBlocked f) ∧ pair.IsBlocked fault ∧
        e = .largeObject fault := by
  induction pairs generalizing log with
  | nil =>
      constructor
      · exact nofun
      · rintro ⟨before, pair, after, fault, split, -⟩
        cases before <;> cases split
  | cons first rest ih =>
      simp only [List.cons_eq_append_iff]
      cases cell : first.position.compareCell policy first.actual first.expected with
      | error fault =>
          have blocked : first.IsBlocked fault := Value.compareCell_eq_error_iff.mp cell
          rw [compareCells, cell]
          constructor
          · intro failed
            exact ⟨[], first, rest, fault, .inl ⟨rfl, rfl⟩, List.forall_mem_nil _, blocked,
              (Except.error.inj failed).symm⟩
          · rintro ⟨_, pair, after, reason, ⟨-, same⟩ | ⟨more, rfl, -⟩, free, blocked', rfl⟩
            · obtain ⟨rfl, -⟩ := List.cons.inj same
              cases cell.symm.trans (Value.compareCell_eq_error_iff.mpr blocked')
              rfl
            · exact absurd blocked (free first List.mem_cons_self fault)
      | ok found =>
          have unblocked : ∀ f, ¬first.IsBlocked f := fun f blocked => by
            cases cell.symm.trans (Value.compareCell_eq_error_iff.mpr blocked)
          rw [compareCells_cons_of_ok cell, ih]
          constructor
          · rintro ⟨before, pair, after, fault, rfl, free, blocked⟩
            exact ⟨first :: before, pair, after, fault, .inr ⟨before, rfl, rfl⟩,
              List.forall_mem_cons.mpr ⟨unblocked, free⟩, blocked⟩
          · rintro ⟨_, pair, after, fault, ⟨-, same⟩ | ⟨before, rfl, split⟩, free, blocked, is⟩
            · obtain ⟨rfl, -⟩ := List.cons.inj same
              exact absurd blocked (unblocked fault)
            · exact ⟨before, pair, after, fault, split, (List.forall_mem_cons.mp free).2, blocked,
                is⟩

/-- The cells of the first place, row by row, that cannot be compared. -/
def FirstBlocked (actual expected : List IndexedRow) (fault : LargeObjectFault) : Prop :=
  ∃ place pair, facing? actual expected place = some pair ∧ pair.IsBlocked fault ∧
    ∀ earlier other, Precedes earlier place → facing? actual expected earlier = some other →
      ∀ f, ¬other.IsBlocked f

theorem Precedes.asymm {first second : Nat × Nat} (before : Precedes first second) :
    ¬Precedes second first := by
  unfold Precedes at before ⊢
  omega

/-- The first blocked cells in the list of cells are the first ones in the grid. -/
theorem firstBlocked_iff {actual expected : List IndexedRow} {width : Nat}
    (length : actual.length = expected.length)
    (actualWidth : ∀ row ∈ actual, row.values.length = width)
    (expectedWidth : ∀ row ∈ expected, row.values.length = width) {fault : LargeObjectFault} :
    FirstBlocked actual expected fault ↔
      ∃ before pair after, cellPairs actual expected = before ++ pair :: after ∧
        (∀ other ∈ before, ∀ f, ¬other.IsBlocked f) ∧ pair.IsBlocked fault := by
  have listed := map_facing?_places length actualWidth expectedWidth
  have ordered := places_pairwise actual.length width
  -- Every place where cells face each other is one of the grid.
  have inGrid : ∀ place pair, facing? actual expected place = some pair →
      place ∈ places actual.length width := by
    rintro ⟨row, column⟩ pair facing
    obtain ⟨a, e, x, y, atRow, -, atColumn, -⟩ := facing?_eq_some_iff.mp facing
    refine mem_places.mpr ⟨(List.getElem?_eq_some_iff.mp atRow).1, ?_⟩
    rw [← actualWidth a (List.mem_of_getElem? atRow)]
    exact (List.getElem?_eq_some_iff.mp atColumn).1
  constructor
  · rintro ⟨place, pair, facing, blocked, free⟩
    obtain ⟨before, after, split⟩ := List.append_of_mem (inGrid place pair facing)
    rw [split] at listed ordered
    rw [List.map_append, List.map_cons, facing, eq_comm, List.map_eq_append_iff] at listed
    obtain ⟨first, rest, eq, mapped, mappedRest⟩ := listed
    obtain ⟨same, last, rfl, head, -⟩ := List.map_eq_cons_iff.mp mappedRest
    obtain rfl : same = pair := Option.some.inj head
    refine ⟨first, same, last, eq, fun other member => ?_, blocked⟩
    have inMap := List.mem_map_of_mem (f := some) member
    rw [mapped] at inMap
    obtain ⟨earlier, inBefore, facing'⟩ := List.mem_map.mp inMap
    exact free earlier other ((List.pairwise_append.mp ordered).2.2 earlier inBefore place
      List.mem_cons_self) facing'
  · rintro ⟨before, pair, after, eq, free, blocked⟩
    rw [eq, List.map_append, List.map_cons, List.map_eq_append_iff] at listed
    obtain ⟨first, rest, split, mapped, mappedRest⟩ := listed
    obtain ⟨place, last, rfl, facing, -⟩ := List.map_eq_cons_iff.mp mappedRest
    refine ⟨place, pair, facing, blocked, fun earlier other precedes facing' => ?_⟩
    rw [split] at ordered
    obtain ⟨-, later, -⟩ := List.pairwise_append.mp ordered
    have member := inGrid earlier other facing'
    rw [split] at member
    rcases List.mem_append.mp member with inFirst | inRest
    · have inMap := List.mem_map_of_mem (f := facing? actual expected) inFirst
      rw [mapped, facing'] at inMap
      obtain ⟨same, inBefore, is⟩ := List.mem_map.mp inMap
      exact free other (Option.some.inj is ▸ inBefore)
    · rcases List.mem_cons.mp inRest with rfl | inLast
      · exact absurd precedes precedes.asymm
      · exact absurd precedes ((List.rel_of_pairwise_cons later inLast).asymm)

end Table

/-! ## The content of what is expected -/

/-- The value, if what large objects hold were what `read` tells of each. -/
def Value.withContents (read : LargeObject → Except ReadFault (List UInt8)) : Value → Value
  | .largeObject kind o => .largeObject kind { o with content := read o }
  | v => v

/-- The table, if what large objects hold were what `read` tells of each. -/
def Table.withContents (read : LargeObject → Except ReadFault (List UInt8)) (t : Table) : Table :=
  { t with rows := t.rows.map (List.map (Value.withContents read)) }

/-- The outcome, if what large objects hold were what `read` tells of each. -/
def Outcome.withContents (read : LargeObject → Except ReadFault (List UInt8)) : Outcome → Outcome
  | .table t => .table (t.withContents read)
  | .exception e => .exception e

section Contents

variable (read : LargeObject → Except ReadFault (List UInt8))

namespace Value

/-- Values are sorted without a look into large objects. -/
theorem sortCompare_withContents (a b : Value) :
    (a.withContents read).sortCompare (b.withContents read) = a.sortCompare b := by
  cases a <;> cases b <;> rfl

/-- What is expected is compared without a look into large objects. -/
theorem compareCell_withContents (policy : Policy) (p : CellPosition) (actual expected : Value) :
    p.compareCell policy actual (expected.withContents read) =
      p.compareCell policy actual expected := by
  cases expected with
  | largeObject kind o =>
      have text : (Value.largeObject kind { o with content := read o }).asText =
          (Value.largeObject kind o).asText := rfl
      simp only [withContents, CellPosition.compareCell, isNull, normalize, text]
      cases actual with
      | largeObject kind' o' =>
          simp only [textForm?]
          cases readLargeObject kind' o' <;> rfl
      | _ => rfl
  | _ => rfl

end Value

namespace IndexedRow

/-- The row, if what large objects hold were what `read` tells of each. -/
def withContents (row : IndexedRow) : IndexedRow :=
  ⟨row.index, row.values.map (Value.withContents read)⟩

theorem ofRows_withContents (rows : List Row) :
    ofRows (rows.map (List.map (Value.withContents read))) =
      (ofRows rows).map (withContents read) := by
  rw [ofRows, ofRows, List.zipIdx_map, List.map_map, List.map_map]
  rfl

theorem compareKeys_withContents (width : Nat) (a b : Row) :
    compareKeys width (a.map (Value.withContents read)) (b.map (Value.withContents read)) =
      compareKeys width a b := by
  induction width generalizing a b with
  | zero => rfl
  | succ width ih =>
      cases a with
      | nil => rfl
      | cons x a =>
          cases b with
          | nil => rfl
          | cons y b =>
              rw [List.map_cons, List.map_cons, compareKeys, compareKeys, ih,
                Value.sortCompare_withContents]

theorem sort?_withContents (rows : List IndexedRow) :
    sort? (rows.map (withContents read)) = (sort? rows).map (List.map (withContents read)) := by
  have width : keyWidth (rows.map (withContents read)) = keyWidth rows := by
    cases rows with
    | nil => rfl
    | cons row rows => exact congrArg (min · keyColumns) (List.length_map _)
  unfold sort?
  rw [width]
  dsimp only
  split
  · rfl
  · rw [Sorting.stableSort?_map]
    refine congrArg (Option.map _) (Sorting.stableSort?_congr fun a _ b _ => ?_)
    exact compareKeys_withContents read (keyWidth rows) a.values b.values

theorem orderIfNeeded?_withContents (actual expected : List Row) (isOrdered : Bool) :
    orderIfNeeded? actual (expected.map (List.map (Value.withContents read))) isOrdered =
      (orderIfNeeded? actual expected isOrdered).map fun rows =>
        (rows.1, rows.2.map (withContents read)) := by
  unfold orderIfNeeded?
  rw [List.isEmpty_map, ofRows_withContents, sort?_withContents]
  split
  · rfl
  · cases sort? (ofRows actual) with
    | none => rfl
    | some a => cases sort? (ofRows expected) <;> rfl

end IndexedRow

namespace Table

variable {policy : Policy}

/-- The same two cells face each other, up to the content of the expected one. -/
theorem cellPairs_withContents (actual expected : List IndexedRow) :
    cellPairs actual (expected.map (IndexedRow.withContents read)) =
      (cellPairs actual expected).map fun pair =>
        { pair with expected := pair.expected.withContents read } := by
  have row : ∀ (number : Nat) (a e : IndexedRow),
      rowPairs number a (e.withContents read) =
        (rowPairs number a e).map fun pair =>
          { pair with expected := pair.expected.withContents read } := by
    intro number a e
    rw [rowPairs, rowPairs, IndexedRow.withContents, List.zip_map_right, List.zipIdx_map,
      List.map_map, List.map_map]
    rfl
  rw [cellPairs, cellPairs, List.zip_map_right, List.zipIdx_map, List.flatMap_map,
    List.map_flatMap]
  refine congrArg (List.flatMap · _) (funext fun entry => row _ _ _)

theorem compareCells_withContents (log : FailureLog) (pairs : List CellPair) :
    compareCells policy log (pairs.map fun pair =>
        { pair with expected := pair.expected.withContents read }) =
      compareCells policy log pairs := by
  induction pairs generalizing log with
  | nil => rfl
  | cons pair pairs ih =>
      rw [List.map_cons, compareCells, compareCells, Value.compareCell_withContents]
      cases pair.position.compareCell policy pair.actual pair.expected with
      | error fault => rfl
      | ok found =>
          cases found with
          | none => exact ih log
          | some failure => exact ih (log.add failure)

theorem compareGrid_withContents (actual expected : Table)
    (actualRows expectedRows : List IndexedRow) :
    compareGrid policy actual actualRows (expected.withContents read)
        (expectedRows.map (IndexedRow.withContents read)) =
      compareGrid policy actual actualRows expected expectedRows := by
  have columns : compareColumns actual (expected.withContents read) =
      compareColumns actual expected := rfl
  rw [compareGrid, compareGrid, columns, List.length_map, cellPairs_withContents,
    compareCells_withContents]

theorem validate_withContents (t : Table) : (t.withContents read).validate = t.validate := by
  have rows : ∀ (columns number : Nat) (rows : List Row),
      checkRows columns number (rows.map (List.map (Value.withContents read))) =
        checkRows columns number rows := by
    intro columns number rows
    induction rows generalizing number with
    | nil => rfl
    | cons row rows ih => rw [List.map_cons, checkRows, checkRows, List.length_map, ih]
  unfold validate
  exact congrArg (fun checked => if t.columnNames.length = t.columnTypes.length then checked
    else .error (.columnTypes t.columnNames.length t.columnTypes.length))
    (rows t.columnCount 1 t.rows)

theorem hasRows_withContents (t : Table) : (t.withContents read).hasRows = t.hasRows := by
  rw [hasRows, hasRows]
  exact congrArg (!·) List.isEmpty_map

end Table

namespace Policy

variable {p : Policy} {isOrdered : Bool}

theorem tableVerdict?_withContents (actual expected : Table) :
    p.tableVerdict? actual (expected.withContents read) isOrdered =
      p.tableVerdict? actual expected isOrdered := by
  cases hasRows : expected.hasRows with
  | true =>
      have hasRows' := (Table.hasRows_withContents read expected).trans hasRows
      rw [tableVerdict?_of_hasRows hasRows, tableVerdict?_of_hasRows hasRows', Table.withContents,
        IndexedRow.orderIfNeeded?_withContents, Option.map_map]
      refine congrArg (Option.map · _) (funext fun rows => ?_)
      exact Table.compareGrid_withContents read actual expected rows.1 rows.2
  | false =>
      unfold tableVerdict?
      rw [Table.hasRows_withContents, hasRows]
      rfl

/-- Whatever the large objects of the expected outcome hold, the comparison is the same. -/
theorem compareUsing?_withContents (library : PatternLibrary) (actual expected : Outcome) :
    p.compareUsing? library actual (expected.withContents read) isOrdered =
      p.compareUsing? library actual expected isOrdered := by
  match actual, expected with
  | .exception _, .table _ | .table _, .exception _ | .exception _, .exception _ => rfl
  | .table a, .table e =>
      have formed : requireWellFormed (e.withContents read) = requireWellFormed e := by
        rw [requireWellFormed, Table.validate_withContents, requireWellFormed]
      change p.compareTables? a (e.withContents read) isOrdered = p.compareTables? a e isOrdered
      rw [compareTables?, compareTables?, formed, tableVerdict?_withContents]
      rfl

end Policy
end Contents

/-! ## Errors of comparisons -/

/-- What makes it impossible to compare an actual outcome with the expected one, and the error. -/
inductive ComparisonFault (library : PatternLibrary) (isOrdered : Bool) :
    Outcome → Outcome → Error → Prop
  /-- The exception is of the expected class, and the expected message is no pattern. -/
  | invalidPattern {actual expected : RaisedException} {fault} :
      actual.className = some (expected.className.getD "") → expected.messageMatch = .regex →
      library.compile (Text.lowercase expected.message) = .error fault →
      ComparisonFault library isOrdered (.exception actual) (.exception expected)
        (.invalidPattern fault)
  | malformedActual {actual expected : Table} {fault} : actual.validate = .error fault →
      ComparisonFault library isOrdered (.table actual) (.table expected)
        (.internal (.malformedTable fault))
  | malformedExpected {actual expected : Table} {fault} : actual.validate = .ok () →
      expected.validate = .error fault →
      ComparisonFault library isOrdered (.table actual) (.table expected)
        (.internal (.malformedTable fault))
  /-- The cells are compared, and one of the actual ones cannot be read. -/
  | unreadable {actual expected : Table} {actualRows expectedRows : List IndexedRow} {fault} :
      actual.validate = .ok () → expected.validate = .ok () → expected.hasRows = true →
      Table.SameShape actual expected →
      IndexedRow.orderIfNeeded? actual.rows expected.rows isOrdered =
        some (actualRows, expectedRows) →
      Table.FirstBlocked actualRows expectedRows fault →
      ComparisonFault library isOrdered (.table actual) (.table expected) (.largeObject fault)

/-- The rows of two outcomes are to be put in order for their comparison, and this breaks off. -/
inductive BreaksOff (isOrdered : Bool) : Outcome → Outcome → Prop
  | sort {actual expected : Table} : actual.validate = .ok () → expected.validate = .ok () →
      expected.hasRows = true →
      IndexedRow.orderIfNeeded? actual.rows expected.rows isOrdered = none →
      BreaksOff isOrdered (.table actual) (.table expected)

variable {library : PatternLibrary} {isOrdered : Bool}

theorem RaisedException.compareWith_eq_error_iff {actual expected : RaisedException} {e : Error} :
    actual.compareWith library expected = .error e ↔
      actual.className = some (expected.className.getD "") ∧ expected.messageMatch = .regex ∧
        ∃ fault, library.compile (Text.lowercase expected.message) = .error fault ∧
          e = .invalidPattern fault := by
  unfold compareWith
  cases actual.className with
  | none => exact ⟨nofun, nofun⟩
  | some actualClass =>
      dsimp only
      by_cases same : expected.className.getD "" = actualClass
      · rw [if_neg (not_not_intro same), same, and_iff_right rfl]
        cases expected.messageMatch with
        | regex =>
            rw [messageComplaint?, and_iff_right rfl]
            cases library.compile (Text.lowercase expected.message) with
            | error fault =>
                constructor
                · rintro ⟨⟩
                  exact ⟨fault, rfl, rfl⟩
                · rintro ⟨_, ⟨⟩, rfl⟩
                  rfl
            | ok occurs => exact ⟨nofun, fun ⟨_, failed, _⟩ => nomatch failed⟩
        | _ => exact ⟨nofun, fun ⟨other, _⟩ => nomatch other⟩
      · rw [if_pos same]
        exact ⟨nofun, fun ⟨equal, _⟩ => absurd (Option.some.inj equal).symm same⟩

/-- Rows that cannot be put in order are to be sorted, and the keys of one side are in no consistent
order. -/
theorem BreaksOff.inconsistent {actual expected : Table}
    (broken : BreaksOff isOrdered (.table actual) (.table expected)) :
    isOrdered = false ∧ ¬(IndexedRow.HasConsistentKeys actual.rows ∧
      IndexedRow.HasConsistentKeys expected.rows) := by
  cases broken with
  | sort actualFormed expectedFormed _ unordered =>
      obtain ⟨-, actualWidths⟩ := Table.validate_eq_ok_iff.mp actualFormed
      obtain ⟨-, expectedWidths⟩ := Table.validate_eq_ok_iff.mp expectedFormed
      unfold IndexedRow.orderIfNeeded? at unordered
      split at unordered
      next => cases unordered
      next busy =>
        refine ⟨by simp_all, ?_⟩
        rintro ⟨actualKeys, expectedKeys⟩
        rw [IndexedRow.sort?_of_consistent actualWidths actualKeys,
          IndexedRow.sort?_of_consistent expectedWidths expectedKeys] at unordered
        cases unordered

namespace Policy

open Table

variable {p : Policy}

/-- Grids of well-formed tables cannot be compared if and only if the tables have one shape and a
large object cannot be read. -/
theorem compareGrid_eq_error_iff {actual expected : Table} {e : Error}
    (actualFormed : actual.validate = .ok ()) (expectedFormed : expected.validate = .ok ())
    {actualRows expectedRows : List IndexedRow}
    (actualPerm : actualRows.Perm (IndexedRow.ofRows actual.rows))
    (expectedPerm : expectedRows.Perm (IndexedRow.ofRows expected.rows)) :
    compareGrid p actual actualRows expected expectedRows = .error e ↔
      SameShape actual expected ∧
        ∃ fault, FirstBlocked actualRows expectedRows fault ∧ e = .largeObject fault := by
  have actualLength := actualPerm.length_eq.trans (IndexedRow.length_ofRows actual.rows)
  have expectedLength := expectedPerm.length_eq.trans (IndexedRow.length_ofRows expected.rows)
  by_cases shape : SameShape actual expected
  · obtain ⟨columns, counts⟩ := shape
    have length := actualLength.trans (Eq.trans counts expectedLength.symm)
    obtain ⟨actualWidth, expectedWidth⟩ := rowWidths actualFormed expectedFormed columns
    have first := @firstBlocked_iff _ _ _ length
      (fun row member => actualWidth _ (IndexedRow.values_mem (actualPerm.mem_iff.mp member)))
      (fun row member => expectedWidth _ (IndexedRow.values_mem (expectedPerm.mem_iff.mp member)))
    rw [and_iff_right ⟨columns, counts⟩, compareGrid_eq columns length, map_eq_error_iff,
      compareCells_eq_error_iff]
    constructor
    · rintro ⟨before, pair, after, fault, split, free, blocked, rfl⟩
      exact ⟨fault, first.mpr ⟨before, pair, after, split, free, blocked⟩, rfl⟩
    · rintro ⟨fault, blocked, rfl⟩
      obtain ⟨before, pair, after, split, free, blocked⟩ := first.mp blocked
      exact ⟨before, pair, after, fault, split, free, blocked, rfl⟩
  · refine ⟨fun failed => absurd ?_ shape, fun found => absurd found.1 shape⟩
    -- Grids of different shapes are compared no further.
    unfold compareGrid at failed
    cases columns : compareColumns actual expected with
    | some failure => rw [columns] at failed; cases failed
    | none =>
        rw [columns, actualLength, expectedLength] at failed
        cases counts : compareRowCounts actual.rows.length expected.rows.length with
        | some failure => rw [counts] at failed; cases failed
        | none => exact ⟨columns, compareRowCounts_eq_none_iff.mp counts⟩

/-- The content of well-formed tables cannot be compared if and only if rows are expected and can be
put in order, the tables have one shape, and a large object cannot be read. -/
theorem tableVerdict?_eq_error_iff {actual expected : Table} {e : Error}
    (actualFormed : actual.validate = .ok ()) (expectedFormed : expected.validate = .ok ()) :
    p.tableVerdict? actual expected isOrdered = some (.error e) ↔
      expected.hasRows = true ∧ ∃ actualRows expectedRows,
        IndexedRow.orderIfNeeded? actual.rows expected.rows isOrdered =
          some (actualRows, expectedRows) ∧
        SameShape actual expected ∧
          ∃ fault, FirstBlocked actualRows expectedRows fault ∧ e = .largeObject fault := by
  cases hasRows : expected.hasRows with
  | false =>
      rw [tableVerdict?, hasRows, if_neg Bool.false_ne_true]
      split <;> exact iff_of_false (by rintro ⟨⟩) (by rintro ⟨⟨⟩, -⟩)
  | true =>
      rw [tableVerdict?_of_hasRows hasRows, and_iff_right rfl, Option.map_eq_some_iff, Prod.exists]
      refine exists_congr fun actualRows => exists_congr fun expectedRows => ?_
      refine and_congr_right fun ordered => ?_
      obtain ⟨actualPerm, expectedPerm⟩ := IndexedRow.orderIfNeeded?_perm ordered
      exact compareGrid_eq_error_iff actualFormed expectedFormed actualPerm expectedPerm

/-- There is no verdict if and only if rows are expected and cannot be put in order. -/
theorem tableVerdict?_eq_none_iff {actual expected : Table} :
    p.tableVerdict? actual expected isOrdered = none ↔
      expected.hasRows = true ∧
        IndexedRow.orderIfNeeded? actual.rows expected.rows isOrdered = none := by
  cases hasRows : expected.hasRows with
  | false =>
      rw [tableVerdict?, hasRows, if_neg Bool.false_ne_true]
      split <;> exact iff_of_false (by rintro ⟨⟩) (by rintro ⟨⟨⟩, -⟩)
  | true =>
      rw [tableVerdict?_of_hasRows hasRows, and_iff_right rfl, Option.map_eq_none_iff]

/-- The errors of a comparison of two tables. -/
theorem compareTables?_eq_error_iff {actual expected : Table} {e : Error} :
    p.compareTables? actual expected isOrdered = some (.error e) ↔
      ComparisonFault library isOrdered (.table actual) (.table expected) e := by
  cases actualFormed : actual.validate with
  | error fault =>
      rw [compareTables?_of_malformedActual actualFormed]
      constructor
      · rintro ⟨⟩
        exact .malformedActual actualFormed
      · intro is
        cases is with
        | malformedActual failed => cases actualFormed.symm.trans failed; rfl
        | malformedExpected formed => cases actualFormed.symm.trans formed
        | unreadable formed => cases actualFormed.symm.trans formed
  | ok _ =>
      cases expectedFormed : expected.validate with
      | error fault =>
          rw [compareTables?_of_malformedExpected actualFormed expectedFormed]
          constructor
          · rintro ⟨⟩
            exact .malformedExpected actualFormed expectedFormed
          · intro is
            cases is with
            | malformedActual failed => cases actualFormed.symm.trans failed
            | malformedExpected _ failed => cases expectedFormed.symm.trans failed; rfl
            | unreadable _ formed => cases expectedFormed.symm.trans formed
      | ok _ =>
          have compared :=
            @compare?_eq_of_wellFormed p actual expected isOrdered actualFormed expectedFormed
          have decided : p.compare? (.table actual) (.table expected) isOrdered =
              some (.error e) ↔ p.tableVerdict? actual expected isOrdered = some (.error e) := by
            rw [compared, Option.map_eq_some_iff]
            simp only [map_eq_error_iff, exists_eq_right]
          refine decided.trans ((tableVerdict?_eq_error_iff actualFormed expectedFormed).trans ?_)
          constructor
          · rintro ⟨hasRows, actualRows, expectedRows, ordered, shape, fault, blocked, rfl⟩
            exact .unreadable actualFormed expectedFormed hasRows shape ordered blocked
          · intro is
            cases is with
            | malformedActual failed => cases actualFormed.symm.trans failed
            | malformedExpected _ failed => cases expectedFormed.symm.trans failed
            | unreadable _ _ hasRows shape ordered blocked =>
                exact ⟨hasRows, _, _, ordered, shape, _, blocked, rfl⟩

/-- A comparison of two tables breaks off where the order of their rows does. -/
theorem compareTables?_eq_none_iff {actual expected : Table} :
    p.compareTables? actual expected isOrdered = none ↔
      BreaksOff isOrdered (.table actual) (.table expected) := by
  cases actualFormed : actual.validate with
  | error fault =>
      rw [compareTables?_of_malformedActual actualFormed]
      refine iff_of_false (Option.some_ne_none _) fun broken => ?_
      cases broken with
      | sort formed => cases actualFormed.symm.trans formed
  | ok _ =>
      cases expectedFormed : expected.validate with
      | error fault =>
          rw [compareTables?_of_malformedExpected actualFormed expectedFormed]
          refine iff_of_false (Option.some_ne_none _) fun broken => ?_
          cases broken with
          | sort _ formed => cases expectedFormed.symm.trans formed
      | ok _ =>
          have compared :=
            @compare?_eq_of_wellFormed p actual expected isOrdered actualFormed expectedFormed
          change p.compare? (.table actual) (.table expected) isOrdered = none ↔ _
          rw [compared, Option.map_eq_none_iff, tableVerdict?_eq_none_iff]
          constructor
          · rintro ⟨hasRows, unordered⟩
            exact .sort actualFormed expectedFormed hasRows unordered
          · intro broken
            cases broken with
            | sort _ _ hasRows unordered => exact ⟨hasRows, unordered⟩

/-- The errors of a comparison of two exceptions. -/
theorem compareExceptions_eq_error_iff {actual expected : RaisedException} {e : Error} :
    p.compareUsing? library (.exception actual) (.exception expected) isOrdered =
        some (.error e) ↔
      ComparisonFault library isOrdered (.exception actual) (.exception expected) e := by
  have compared : p.compareUsing? library (.exception actual) (.exception expected) isOrdered =
      some ((actual.compareWith library expected).map fun found =>
        .ofVerdict (found.elim .pass .failed)) := rfl
  rw [compared, Option.some_inj, map_eq_error_iff, RaisedException.compareWith_eq_error_iff]
  constructor
  · rintro ⟨sameClass, regex, fault, invalid, rfl⟩
    exact .invalidPattern sameClass regex invalid
  · rintro (⟨sameClass, regex, invalid⟩)
    exact ⟨sameClass, regex, _, invalid, rfl⟩

/-- A comparison ends in an error exactly in the cases listed. It does not end where a sort of the
rows breaks off, which happens only to rows that are to be sorted and have no consistent order, and
it ends in a verdict otherwise. The policy makes no difference to that, and neither do large objects
of the expected outcome. -/
theorem compareUsing?_eq_error_iff (library : PatternLibrary) (p : Policy)
    (actual expected : Outcome) (isOrdered : Bool) :
    (∀ e, p.compareUsing? library actual expected isOrdered = some (.error e) ↔
        ComparisonFault library isOrdered actual expected e) ∧
      (p.compareUsing? library actual expected isOrdered = none ↔
        BreaksOff isOrdered actual expected) ∧
      ((∃ c, p.compareUsing? library actual expected isOrdered = some (.ok c)) ↔
        ¬BreaksOff isOrdered actual expected ∧
          ∀ e, ¬ComparisonFault library isOrdered actual expected e) ∧
      (∀ a x, actual = .table a → expected = .table x → BreaksOff isOrdered actual expected →
        isOrdered = false ∧
          ¬(IndexedRow.HasConsistentKeys a.rows ∧ IndexedRow.HasConsistentKeys x.rows)) ∧
      ∀ read, p.compareUsing? library actual (expected.withContents read) isOrdered =
        p.compareUsing? library actual expected isOrdered := by
  have errors : ∀ e, p.compareUsing? library actual expected isOrdered = some (.error e) ↔
      ComparisonFault library isOrdered actual expected e := by
    intro e
    cases actual with
    | exception a =>
        cases expected with
        | exception x => exact compareExceptions_eq_error_iff
        | table t => constructor <;> rintro ⟨⟩
    | table a =>
        cases expected with
        | exception x => constructor <;> rintro ⟨⟩
        | table t => exact compareTables?_eq_error_iff
  have breaks : p.compareUsing? library actual expected isOrdered = none ↔
      BreaksOff isOrdered actual expected := by
    cases actual with
    | exception a => cases expected <;> exact ⟨nofun, nofun⟩
    | table a =>
        cases expected with
        | exception x => exact ⟨nofun, nofun⟩
        | table t => exact compareTables?_eq_none_iff
  refine ⟨errors, breaks, ?_, ?_, fun read => compareUsing?_withContents read library _ _⟩
  · rw [← breaks]
    simp only [← errors]
    cases p.compareUsing? library actual expected isOrdered with
    | none => exact iff_of_false (by rintro ⟨c, ⟨⟩⟩) fun none => none.1 rfl
    | some answer =>
        cases answer with
        | ok c => exact iff_of_true ⟨c, rfl⟩ ⟨nofun, by rintro e ⟨⟩⟩
        | error e => exact iff_of_false (by rintro ⟨c, ⟨⟩⟩) fun none => none.2 e rfl
  · rintro a x rfl rfl broken
    exact broken.inconsistent

/-- A comparison of a table with itself need not end, whatever the policy, although the table passes
where the order of rows is fixed. -/
theorem compareUsing?_unsortableTable :
    let t := IndexedRow.unsortableTable
    t.validate = .ok () ∧ exact.Passes t t true ∧
      ∀ (library : PatternLibrary) (p : Policy),
        p.compareUsing? library (.table t) (.table t) false = none := by
  intro t
  have formed : t.validate = .ok () := by decide +kernel
  have unordered : IndexedRow.orderIfNeeded? t.rows t.rows false = none := by
    rw [IndexedRow.orderIfNeeded?_unordered rfl]
    exact congrArg (Option.bind · _) IndexedRow.sort?_unsortableRows
  refine ⟨formed, by decide +kernel, fun library p => ?_⟩
  exact compareTables?_eq_none_iff.mpr (.sort formed formed rfl unordered)

-- Of two large objects that cannot be read, the order of the rows decides which is reported.
example :
    let lost (kind : LargeObjectKind) : Value := .largeObject kind ⟨0, .error (.refused "lost")⟩
    let rows : List Row := [[.integer 2, lost .clob], [.integer 1, lost .blob]]
    let table : Outcome := .table ⟨["id", "body"], ["integer", "varchar"], rows, none, 0⟩
    exact.compare table table true = .error (.largeObject (.unreadable .clob (.refused "lost"))) ∧
      exact.compare table table false =
        .error (.largeObject (.unreadable .blob (.refused "lost"))) := by
  intro lost rows table
  constructor
  · rfl
  · rfl

end Policy
end QueryRegression
