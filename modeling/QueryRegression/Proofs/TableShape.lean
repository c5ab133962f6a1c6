import QueryRegression.Proofs.ComparisonVerdict
import QueryRegression.Proofs.RowOrder

/-!
# The shape of tables that pass

Two tables have the same shape if their columns agree and they have equally many rows. Where rows
are expected, a pass means the same shape, because the grid is compared only then. Where neither
table has rows, update counts alone decide: columns are not looked at.

* `Table.validate_eq_ok_iff`: what well-formed tables are.
* `Policy.compare?_eq_of_wellFormed`: well-formed tables get the verdict of `Policy.tableVerdict?`.
* `Policy.passes_without_shape_iff`: the tables that pass without having the same shape.
-/

namespace QueryRegression

namespace Table

theorem checkRows_eq_ok_iff {columns number : Nat} {rows : List Row} :
    checkRows columns number rows = .ok () ↔ ∀ row ∈ rows, row.length = columns := by
  induction rows generalizing number with
  | nil => simp [checkRows]
  | cons row rows ih =>
      rw [checkRows, List.forall_mem_cons]
      split
      next width => rw [ih, and_iff_right width]
      next width => exact ⟨nofun, fun widths => absurd widths.1 width⟩

/-- A table is well formed if every column has a type and every row a value for every column. -/
theorem validate_eq_ok_iff {t : Table} :
    t.validate = .ok () ↔
      t.columnNames.length = t.columnTypes.length ∧ ∀ row ∈ t.rows, row.length = t.columnCount := by
  unfold validate
  split
  next typed => rw [checkRows_eq_ok_iff, and_iff_right typed]
  next typed => exact ⟨nofun, fun formed => absurd formed.1 typed⟩

theorem columnCount_eq {actual expected : Table} (columns : compareColumns actual expected = none) :
    actual.columnCount = expected.columnCount := by
  unfold compareColumns at columns
  split at columns
  next => cases columns
  next equal => exact (Decidable.not_not.mp equal).symm

theorem compareColumn_self_iff (number : Nat) {column : String × String} :
    compareColumn number column column = none ↔ Text.eqAsciiCase column.2 "blob" = false := by
  have mapped : Text.eqAsciiCase column.2 "blob" = true →
      Text.eqAsciiCase column.2 canonicalBlobType = false := by
    intro blob
    simp only [Text.eqAsciiCase, beq_iff_eq] at blob ⊢
    rw [blob]
    decide
  unfold compareColumn canonicalType
  simp only [Text.eqAsciiCase_refl, Bool.not_true, Bool.false_eq_true, if_false]
  cases blob : Text.eqAsciiCase column.2 "blob" with
  | true => simp [mapped blob]
  | false => simp [Text.eqAsciiCase_refl]

theorem compareColumnsFrom_self_iff (number : Nat) {columns : List (String × String)} :
    compareColumnsFrom number columns columns = none ↔
      ∀ column ∈ columns, Text.eqAsciiCase column.2 "blob" = false := by
  induction columns generalizing number with
  | nil => simp [compareColumnsFrom]
  | cons column columns ih =>
      rw [compareColumnsFrom, List.forall_mem_cons, ← ih (number + 1),
        ← compareColumn_self_iff number]
      cases compareColumn number column column <;> simp

/-- A table has its own columns, unless a column of blobs is expected as bytes. -/
theorem compareColumns_self {t : Table} (rows : List Row)
    (noBlobs : ∀ type ∈ t.columnTypes, Text.eqAsciiCase type "blob" = false) :
    compareColumns { t with rows } t = none := by
  unfold compareColumns
  rw [if_neg (fun differ => differ rfl)]
  exact (compareColumnsFrom_self_iff 1).mpr fun column member =>
    noBlobs _ (List.of_mem_zip member).2

/-- The rows of two well-formed tables of the same columns have one length. -/
theorem rowWidths {actual expected : Table} (actualFormed : actual.validate = .ok ())
    (expectedFormed : expected.validate = .ok ())
    (columns : compareColumns actual expected = none) :
    (∀ row ∈ actual.rows, row.length = expected.columnCount) ∧
      ∀ row ∈ expected.rows, row.length = expected.columnCount := by
  obtain ⟨-, actualWidth⟩ := validate_eq_ok_iff.mp actualFormed
  obtain ⟨-, expectedWidth⟩ := validate_eq_ok_iff.mp expectedFormed
  rw [columnCount_eq columns] at actualWidth
  exact ⟨actualWidth, expectedWidth⟩

theorem hasRows_eq_false_iff {t : Table} : t.hasRows = false ↔ t.rows = [] := by
  rw [hasRows, Bool.not_eq_false', List.isEmpty_iff]

/-- The columns agree, and there are equally many rows. -/
def SameShape (actual expected : Table) : Prop :=
  compareColumns actual expected = none ∧ actual.rowCount = expected.rowCount

end Table

namespace Policy

open Table

variable {p : Policy} {actual expected : Table} {isOrdered : Bool}

/-- The comparison of two tables ends in a pass. -/
def Passes (p : Policy) (actual expected : Table) (isOrdered : Bool) : Prop :=
  ∃ c, p.compare (.table actual) (.table expected) isOrdered = .ok c ∧ c.verdict = .pass

instance : Decidable (p.Passes actual expected isOrdered) :=
  match compared : p.compare (.table actual) (.table expected) isOrdered with
  | .ok c =>
    decidable_of_iff (c.verdict = .pass)
      ⟨fun pass => ⟨c, compared, pass⟩, fun ⟨_, equal, pass⟩ =>
        Except.ok.inj (compared.symm.trans equal) ▸ pass⟩
  | .error _ => isFalse fun ⟨_, equal, _⟩ => nomatch compared.symm.trans equal

/-- A malformed actual table is an error, whatever is expected. -/
theorem compareTables?_of_malformedActual {fault : TableFault}
    (malformed : actual.validate = .error fault) :
    p.compareTables? actual expected isOrdered =
      some (.error (.internal (.malformedTable fault))) := by
  rw [compareTables?, requireWellFormed, malformed]
  rfl

theorem compareTables?_of_malformedExpected {fault : TableFault}
    (actualFormed : actual.validate = .ok ()) (malformed : expected.validate = .error fault) :
    p.compareTables? actual expected isOrdered =
      some (.error (.internal (.malformedTable fault))) := by
  rw [compareTables?, requireWellFormed, requireWellFormed, actualFormed, malformed]
  rfl

/-- Well-formed tables are compared; the check of times leaves the verdict as it is. -/
theorem compare?_eq_of_wellFormed (actualFormed : actual.validate = .ok ())
    (expectedFormed : expected.validate = .ok ()) :
    p.compare? (.table actual) (.table expected) isOrdered =
      (p.tableVerdict? actual expected isOrdered).map fun verdict => verdict.map fun verdict =>
        ⟨verdict, (p.timeExcess? actual.executionTime expected.executionTime).map
          (.general .executionTime)⟩ := by
  rw [compare?, compareUsing?, compareTables?, requireWellFormed, requireWellFormed, actualFormed,
    expectedFormed]
  cases p.tableVerdict? actual expected isOrdered <;> rfl

theorem passes_iff_tableVerdict? (actualFormed : actual.validate = .ok ())
    (expectedFormed : expected.validate = .ok ()) :
    p.Passes actual expected isOrdered ↔
      p.tableVerdict? actual expected isOrdered = some (.ok .pass) := by
  unfold Passes
  simp only [compare_eq_ok_iff]
  rw [compare?_eq_of_wellFormed actualFormed expectedFormed]
  constructor
  · rintro ⟨c, equal, pass⟩
    obtain ⟨answer, decided, mapped⟩ := Option.map_eq_some_iff.mp equal
    cases answer <;> cases mapped
    exact decided.trans (congrArg (some ∘ Except.ok) pass)
  · intro equal
    rw [equal]
    exact ⟨_, rfl, rfl⟩

/-- Where rows are expected, the grids are compared, if the rows can be put in order. -/
theorem tableVerdict?_of_hasRows (hasRows : expected.hasRows = true) :
    p.tableVerdict? actual expected isOrdered =
      (IndexedRow.orderIfNeeded? actual.rows expected.rows isOrdered).map fun rows =>
        compareGrid p actual rows.1 expected rows.2 := by
  rw [tableVerdict?, if_pos hasRows]
  cases IndexedRow.orderIfNeeded? actual.rows expected.rows isOrdered <;> rfl

/-- Rows where none are expected fail. -/
theorem tableVerdict?_ne_pass_of_unexpected (rowless : expected.hasRows = false)
    (hasRows : actual.hasRows = true) :
    p.tableVerdict? actual expected isOrdered ≠ some (.ok .pass) := by
  rw [tableVerdict?, if_neg (Bool.not_eq_true _ ▸ rowless), if_pos hasRows]
  exact nofun

/-- Where neither table has rows, update counts decide. -/
theorem tableVerdict?_of_rowless (expectedRowless : expected.hasRows = false)
    (actualRowless : actual.hasRows = false) :
    p.tableVerdict? actual expected isOrdered =
      some (.ok (compareUpdateCounts actual.updateCount expected.updateCount)) := by
  rw [tableVerdict?, if_neg (Bool.not_eq_true _ ▸ expectedRowless),
    if_neg (Bool.not_eq_true _ ▸ actualRowless)]

/-- Where rows are expected and can be put in order, tables pass if and only if they have the same
shape and the rows match that face each other. -/
theorem passes_iff_rowsMatch (actualFormed : actual.validate = .ok ())
    (expectedFormed : expected.validate = .ok ()) (hasRows : expected.hasRows = true)
    {actualRows expectedRows : List IndexedRow}
    (ordered : IndexedRow.orderIfNeeded? actual.rows expected.rows isOrdered =
      some (actualRows, expectedRows)) :
    p.Passes actual expected isOrdered ↔ SameShape actual expected ∧
      ∀ rows ∈ actualRows.zip expectedRows, RowsMatch p rows.1.values rows.2.values := by
  obtain ⟨actualPerm, expectedPerm⟩ := IndexedRow.orderIfNeeded?_perm ordered
  rw [passes_iff_tableVerdict? actualFormed expectedFormed, tableVerdict?_of_hasRows hasRows,
    ordered, Option.map_some, Option.some_inj, compareGrid_pass_iff, actualPerm.length_eq,
    expectedPerm.length_eq, IndexedRow.length_ofRows, IndexedRow.length_ofRows, ← and_assoc]
  rfl

/-- The rows of tables that pass can be put in order. -/
theorem orderIfNeeded?_of_passes (actualFormed : actual.validate = .ok ())
    (expectedFormed : expected.validate = .ok ()) (hasRows : expected.hasRows = true)
    (pass : p.Passes actual expected isOrdered) :
    ∃ actualRows expectedRows, IndexedRow.orderIfNeeded? actual.rows expected.rows isOrdered =
      some (actualRows, expectedRows) := by
  rw [passes_iff_tableVerdict? actualFormed expectedFormed, tableVerdict?_of_hasRows hasRows,
    Option.map_eq_some_iff] at pass
  obtain ⟨⟨actualRows, expectedRows⟩, ordered, -⟩ := pass
  exact ⟨actualRows, expectedRows, ordered⟩

/-- Where no update count is expected, tables of different shapes pass if and only if neither has
rows and their columns differ. -/
theorem passes_without_shape_iff (p : Policy) (actual expected : Table) (isOrdered : Bool)
    (actualFormed : actual.validate = .ok ()) (expectedFormed : expected.validate = .ok ())
    (noCount : expected.updateCount = none) :
    p.Passes actual expected isOrdered ∧ ¬SameShape actual expected ↔
      actual.rows = [] ∧ expected.rows = [] ∧ compareColumns actual expected ≠ none := by
  cases expectedRows : expected.hasRows with
  | true =>
      have nonempty : expected.rows ≠ [] := fun empty =>
        Bool.noConfusion (expectedRows.symm.trans (hasRows_eq_false_iff.mpr empty))
      constructor
      · rintro ⟨pass, differ⟩
        obtain ⟨a, e, ordered⟩ :=
          orderIfNeeded?_of_passes actualFormed expectedFormed expectedRows pass
        exact absurd
          ((passes_iff_rowsMatch actualFormed expectedFormed expectedRows ordered).mp pass).1 differ
      · rintro ⟨-, empty, -⟩
        exact absurd empty nonempty
  | false =>
      rw [passes_iff_tableVerdict? actualFormed expectedFormed]
      have expectedEmpty := hasRows_eq_false_iff.mp expectedRows
      cases actualRows : actual.hasRows with
      | true =>
          constructor
          · rintro ⟨pass, -⟩
            exact absurd pass (tableVerdict?_ne_pass_of_unexpected expectedRows actualRows)
          · rintro ⟨empty, -, -⟩
            exact Bool.noConfusion (actualRows.symm.trans (hasRows_eq_false_iff.mpr empty))
      | false =>
          have actualEmpty := hasRows_eq_false_iff.mp actualRows
          have counts : actual.rowCount = expected.rowCount := by
            rw [rowCount, rowCount, actualEmpty, expectedEmpty]
          rw [tableVerdict?_of_rowless expectedRows actualRows, noCount]
          constructor
          · rintro ⟨-, differ⟩
            exact ⟨actualEmpty, expectedEmpty, fun columns => differ ⟨columns, counts⟩⟩
          · rintro ⟨-, -, columns⟩
            exact ⟨rfl, fun shape => columns shape.1⟩

/-- Two tables of one column each, of different names and without rows. -/
theorem passes_without_shape_of_names :
    let actual : Table := ⟨["a"], ["integer"], [], none, 0⟩
    let expected : Table := ⟨["b"], ["integer"], [], none, 0⟩
    actual.validate = .ok () ∧ expected.validate = .ok () ∧ expected.updateCount = none ∧
      exact.Passes actual expected true ∧ ¬SameShape actual expected := by
  have differ : compareColumns ⟨["a"], ["integer"], [], none, 0⟩ ⟨["b"], ["integer"], [], none, 0⟩ ≠
      none := by decide
  exact ⟨rfl, rfl, rfl,
    (passes_without_shape_iff .exact _ _ true rfl rfl rfl).mpr ⟨rfl, rfl, differ⟩⟩

end Policy
end QueryRegression
