import QueryRegression.Proofs.TableShape

/-!
# The agreement of columns

The columns of an actual table agree with those of an expected one if there are equally many and if
each has the short name and the type that are expected in its place. Otherwise the comparison of the
columns ends in one failure, that of the count or that of the first column with a wrong name or a
wrong type.

* `isShortName_iff`: what the short name of a column is.
* `Table.compareColumnsFrom_eq_some_iff`: only the first column that is wrong is named.
* `Policy.compare_qualify`: qualifiers of columns change nothing in a comparison.
* `Table.compareColumns_firstFault`: when columns agree, and what is said where they do not.
-/

namespace QueryRegression

/-! ## Short names -/

/-- The text after the last point of a name, which is the whole name if that has no point. -/
def IsShortName (name short : String) : Prop :=
  '.' ∉ short.toList ∧ (name = short ∨ ∃ qualifier, name = qualifier ++ "." ++ short)

theorem takeWhile_append_point (cs rest : List Char) :
    (cs ++ '.' :: rest).takeWhile (· ≠ '.') = cs.takeWhile (· ≠ '.') := by
  induction cs with
  | nil => rfl
  | cons c cs ih =>
      rw [List.cons_append, List.takeWhile_cons, List.takeWhile_cons, ih]

/-- A qualifier, with or without points, does not show in the short name. -/
theorem shortName_qualified (qualifier name : String) :
    shortName (qualifier ++ "." ++ name) = shortName name := by
  have reversed : (qualifier ++ "." ++ name).toList.reverse =
      name.toList.reverse ++ '.' :: qualifier.toList.reverse := by
    simp [String.toList_append]
  rw [shortName, reversed, takeWhile_append_point, shortName]

theorem shortName_of_not_mem {name : String} (plain : '.' ∉ name.toList) :
    shortName name = name := by
  have all : (name.toList.reverse ++ []).takeWhile (· ≠ '.') = name.toList.reverse ++ [] :=
    List.takeWhile_append_of_pos fun c member =>
      decide_eq_true fun point => plain (point ▸ List.mem_reverse.mp member)
  rw [List.append_nil] at all
  rw [shortName, all, List.reverse_reverse, String.ofList_toList]

/-- A name with a point is a qualifier before its last point, and a text without a point. -/
theorem exists_qualifier {name : String} (point : '.' ∈ name.toList) :
    ∃ qualifier short, name = qualifier ++ "." ++ short ∧ '.' ∉ short.toList := by
  -- The first point from behind is the last one.
  obtain ⟨cs, rest, split, plain⟩ := List.eq_append_cons_of_mem (List.mem_reverse.mpr point)
  refine ⟨.ofList rest.reverse, .ofList cs.reverse, String.toList_inj.mp ?_, ?_⟩
  · rw [← List.reverse_reverse name.toList, split]
    simp [String.toList_append]
  · rw [String.toList_ofList, List.mem_reverse]
    exact plain

theorem isShortName_iff {name short : String} :
    IsShortName name short ↔ short = shortName name := by
  constructor
  · rintro ⟨plain, rfl | ⟨qualifier, rfl⟩⟩
    · exact (shortName_of_not_mem plain).symm
    · rw [shortName_qualified, shortName_of_not_mem plain]
  · rintro rfl
    by_cases point : '.' ∈ name.toList
    · obtain ⟨qualifier, short, rfl, plain⟩ := exists_qualifier point
      rw [shortName_qualified, shortName_of_not_mem plain]
      exact ⟨plain, .inr ⟨qualifier, rfl⟩⟩
    · rw [shortName_of_not_mem point]
      exact ⟨point, .inl rfl⟩

namespace Table

/-! ## What is expected of columns -/

/-- The name and the type of the column with the given number, counted from zero. -/
def IsColumn (t : Table) (n : Nat) (column : String × String) : Prop :=
  t.columnNames[n]? = some column.1 ∧ t.columnTypes[n]? = some column.2

/-- The short names are equal up to the case of ASCII letters. -/
def NamesAgree (actual expected : String) : Prop :=
  ∃ actualShort expectedShort, IsShortName actual actualShort ∧
    IsShortName expected expectedShort ∧ Text.eqAsciiCase expectedShort actualShort = true

/-- A column of blobs is expected as bytes, every other column as what it is. -/
def TypesAgree (actual expected : String) : Prop :=
  if Text.eqAsciiCase actual "blob" then Text.eqAsciiCase expected "byte[]" = true
  else Text.eqAsciiCase expected actual = true

def ColumnsAgree (actual expected : String × String) : Prop :=
  NamesAgree actual.1 expected.1 ∧ TypesAgree actual.2 expected.2

/-- The columns agree that have the given number. -/
def AgreeAt (actual expected : Table) (n : Nat) : Prop :=
  ∃ a e, actual.IsColumn n a ∧ expected.IsColumn n e ∧ ColumnsAgree a e

/-- The tables have equally many columns, and all of them agree. -/
def SameColumns (actual expected : Table) : Prop :=
  actual.columnCount = expected.columnCount ∧ ∀ n < expected.columnCount, AgreeAt actual expected n

/-- What is wrong with a column of the given number, counted from one: its name, or else its
type. -/
inductive ColumnFault (number : Nat) (actual expected : String × String) : Failure → Prop
  | name {actualShort expectedShort} : IsShortName actual.1 actualShort →
      IsShortName expected.1 expectedShort → Text.eqAsciiCase expectedShort actualShort = false →
      ColumnFault number actual expected (.general .structural
        (s!"Got incorrect column name at column {number}, expected = " ++ expectedShort ++
          " but got = " ++ actualShort))
  | type : NamesAgree actual.1 expected.1 → ¬TypesAgree actual.2 expected.2 →
      ColumnFault number actual expected (.general .structural
        (s!"Got incorrect column type at column {number}, expected = " ++ expected.2 ++
          " but got = " ++ canonicalType actual.2))

/-- What is wrong with the columns of a table: their number, or else the first of them that does not
agree with the one in its place. -/
inductive ColumnsFault (actual expected : Table) : Failure → Prop
  | count : actual.columnCount ≠ expected.columnCount →
      ColumnsFault actual expected (.general .structural
        (s!"Got incorrect number of columns, expected = {expected.columnCount}, " ++
          s!"actual = {actual.columnCount}"))
  | column {n a e failure} : actual.columnCount = expected.columnCount →
      actual.IsColumn n a → expected.IsColumn n e → (∀ m < n, AgreeAt actual expected m) →
      ColumnFault (n + 1) a e failure → ColumnsFault actual expected failure

/-! ## One column -/

variable {number : Nat} {a e : String × String} {failure : Failure}

theorem namesAgree_iff {actual expected : String} :
    NamesAgree actual expected ↔
      Text.eqAsciiCase (shortName expected) (shortName actual) = true := by
  constructor
  · rintro ⟨actualShort, expectedShort, isActual, isExpected, agree⟩
    rw [← isShortName_iff.mp isActual, ← isShortName_iff.mp isExpected]
    exact agree
  · intro agree
    exact ⟨_, _, isShortName_iff.mpr rfl, isShortName_iff.mpr rfl, agree⟩

theorem typesAgree_iff {actual expected : String} :
    TypesAgree actual expected ↔ Text.eqAsciiCase expected (canonicalType actual) = true := by
  unfold TypesAgree canonicalType
  split
  · rfl
  · rfl

theorem compareColumn_eq_none_iff : compareColumn number a e = none ↔ ColumnsAgree a e := by
  rw [ColumnsAgree, namesAgree_iff, typesAgree_iff]
  cases names : Text.eqAsciiCase (shortName e.1) (shortName a.1) with
  | false => simp [compareColumn, names]
  | true =>
      cases types : Text.eqAsciiCase e.2 (canonicalType a.2) with
      | false => simp [compareColumn, names, types]
      | true => simp [compareColumn, names, types]

theorem compareColumn_eq_some_iff :
    compareColumn number a e = some failure ↔ ColumnFault number a e failure := by
  constructor
  · intro compared
    simp only [compareColumn] at compared
    split at compared
    next names =>
      cases compared
      rw [Bool.not_eq_true'] at names
      exact .name (isShortName_iff.mpr rfl) (isShortName_iff.mpr rfl) names
    next names =>
      split at compared
      next types =>
        cases compared
        rw [Bool.not_eq_true, Bool.not_eq_false'] at names
        rw [Bool.not_eq_true'] at types
        refine .type (namesAgree_iff.mpr names) fun agree => ?_
        cases types.symm.trans (typesAgree_iff.mp agree)
      next => cases compared
  · intro fault
    cases fault with
    | name isActual isExpected differ =>
        rw [isShortName_iff.mp isActual, isShortName_iff.mp isExpected] at differ ⊢
        simp [compareColumn, differ]
    | type names types =>
        rw [namesAgree_iff] at names
        rw [typesAgree_iff, Bool.not_eq_true] at types
        simp [compareColumn, names, types]

/-! ## All columns -/

theorem compareColumnsFrom_eq_none_iff {as es : List (String × String)} :
    compareColumnsFrom number as es = none ↔
      ∀ (n : Nat) a e, as[n]? = some a → es[n]? = some e → ColumnsAgree a e := by
  induction as generalizing number es with
  | nil => simp [compareColumnsFrom]
  | cons a as ih =>
      cases es with
      | nil => simp [compareColumnsFrom]
      | cons e es =>
          rw [compareColumnsFrom, Option.orElse_eq_orElse, Option.orElse_eq_or,
            Option.or_eq_none_iff, compareColumn_eq_none_iff, ih]
          constructor
          · rintro ⟨first, later⟩ n a' e' isActual isExpected
            cases n with
            | zero =>
                cases isActual
                cases isExpected
                exact first
            | succ n => exact later n a' e' isActual isExpected
          · intro agree
            exact ⟨agree 0 a e rfl rfl, fun n => agree (n + 1)⟩

/-- The failure of some columns is that of the first column that does not agree with the one in its
place. -/
theorem compareColumnsFrom_eq_some_iff {as es : List (String × String)} :
    compareColumnsFrom number as es = some failure ↔
      ∃ (n : Nat) (a e : String × String), as[n]? = some a ∧ es[n]? = some e ∧
        (∀ m < n, ∃ a e, as[m]? = some a ∧ es[m]? = some e ∧ ColumnsAgree a e) ∧
        ColumnFault (number + n) a e failure := by
  induction as generalizing number es with
  | nil => simp [compareColumnsFrom]
  | cons a as ih =>
      cases es with
      | nil => simp [compareColumnsFrom]
      | cons e es =>
          rw [compareColumnsFrom, Option.orElse_eq_orElse, Option.orElse_eq_or,
            Option.or_eq_some_iff, compareColumn_eq_none_iff, compareColumn_eq_some_iff, ih]
          constructor
          -- The columns of the rest have moved by one, and so have their numbers.
          · rintro (fault | ⟨first, n, a', e', isActual, isExpected, agree, fault⟩)
            · exact ⟨0, a, e, rfl, rfl, fun m earlier => absurd earlier (Nat.not_lt_zero m), fault⟩
            · refine ⟨n + 1, a', e', isActual, isExpected, fun m earlier => ?_, ?_⟩
              · cases m with
                | zero => exact ⟨a, e, rfl, rfl, first⟩
                | succ m => exact agree m (Nat.lt_of_succ_lt_succ earlier)
              · rw [Nat.add_right_comm] at fault
                exact fault
          · rintro ⟨n, a', e', isActual, isExpected, agree, fault⟩
            cases n with
            | zero =>
                cases isActual
                cases isExpected
                exact .inl fault
            | succ n =>
                obtain ⟨_, _, isFirst, isFirst', first⟩ := agree 0 (Nat.succ_pos n)
                cases isFirst
                cases isFirst'
                refine .inr ⟨first, n, a', e', isActual, isExpected, fun m earlier =>
                  agree (m + 1) (Nat.succ_lt_succ earlier), ?_⟩
                rw [Nat.add_right_comm]
                exact fault

variable {t actual expected : Table}

theorem getElem?_columns {n : Nat} {column : String × String} :
    t.columns[n]? = some column ↔ t.IsColumn n column :=
  List.getElem?_zip_eq_some

/-- In a well-formed table every column has a type. -/
theorem exists_isColumn (formed : t.validate = .ok ()) {n : Nat} (within : n < t.columnCount) :
    ∃ column, t.IsColumn n column := by
  have typed : n < t.columnTypes.length := (validate_eq_ok_iff.mp formed).1 ▸ within
  exact ⟨(t.columnNames[n], t.columnTypes[n]), List.getElem?_eq_getElem within,
    List.getElem?_eq_getElem typed⟩

theorem IsColumn.lt {n : Nat} (h : t.IsColumn n a) : n < t.columnCount :=
  (List.getElem?_eq_some_iff.mp h.1).1

theorem IsColumn.unique {n : Nat} (h : t.IsColumn n a) (h' : t.IsColumn n e) : a = e :=
  Prod.ext (Option.some.inj (h.1.symm.trans h'.1)) (Option.some.inj (h.2.symm.trans h'.2))

theorem compareColumns_eq_none_iff (actualFormed : actual.validate = .ok ())
    (expectedFormed : expected.validate = .ok ()) :
    compareColumns actual expected = none ↔ SameColumns actual expected := by
  unfold compareColumns SameColumns
  split
  next differ => exact ⟨nofun, fun same => absurd same.1.symm differ⟩
  next equal =>
    rw [Decidable.not_not] at equal
    rw [compareColumnsFrom_eq_none_iff, and_iff_right equal.symm]
    constructor
    · intro agree n within
      obtain ⟨a, isActual⟩ := exists_isColumn actualFormed (equal ▸ within)
      obtain ⟨e, isExpected⟩ := exists_isColumn expectedFormed within
      exact ⟨a, e, isActual, isExpected,
        agree n a e (getElem?_columns.mpr isActual) (getElem?_columns.mpr isExpected)⟩
    · intro agree n a e isActual isExpected
      rw [getElem?_columns] at isActual isExpected
      obtain ⟨a', e', isActual', isExpected', same⟩ := agree n isExpected.lt
      rw [isActual.unique isActual', isExpected.unique isExpected']
      exact same

theorem compareColumns_eq_some_iff :
    compareColumns actual expected = some failure ↔ ColumnsFault actual expected failure := by
  unfold compareColumns
  split
  next differ =>
    constructor
    · intro compared
      cases compared
      exact .count (Ne.symm differ)
    · intro fault
      cases fault with
      | count => rfl
      | column equal => exact absurd equal.symm differ
  next equal =>
    rw [Decidable.not_not] at equal
    rw [compareColumnsFrom_eq_some_iff]
    simp only [getElem?_columns, Nat.add_comm 1]
    constructor
    · rintro ⟨n, a, e, isActual, isExpected, agree, fault⟩
      exact .column equal.symm isActual isExpected agree fault
    · intro fault
      cases fault with
      | count differ => exact absurd equal.symm differ
      | column _ isActual isExpected agree fault =>
          exact ⟨_, _, _, isActual, isExpected, agree, fault⟩

/-! ## Qualifiers -/

/-- The table with a qualifier before the name of every column for which there is one. -/
def qualify (qualifiers : Nat → Option String) (t : Table) : Table :=
  { t with columnNames := t.columnNames.mapIdx fun n name =>
      (qualifiers n).elim name fun qualifier => qualifier ++ "." ++ name }

theorem columnCount_qualify (qualifiers : Nat → Option String) :
    (t.qualify qualifiers).columnCount = t.columnCount := List.length_mapIdx

theorem validate_qualify (qualifiers : Nat → Option String) :
    (t.qualify qualifiers).validate = t.validate := by
  have names : (t.qualify qualifiers).columnNames.length = t.columnNames.length :=
    columnCount_qualify qualifiers
  unfold validate
  rw [names, columnCount_qualify]
  rfl

/-- The column with its short name. -/
def shortColumn : String × String → String × String := Prod.map shortName id

/-- Nothing but the short name of a column is looked at. -/
theorem compareColumnsFrom_shortColumns {as es : List (String × String)} :
    compareColumnsFrom number (as.map shortColumn) (es.map shortColumn) =
      compareColumnsFrom number as es := by
  have short (column : String × String) : shortName (shortColumn column).1 = shortName column.1 :=
    shortName_of_not_mem (isShortName_iff.mpr rfl : IsShortName column.1 _).1
  have one (number : Nat) (a e : String × String) :
      compareColumn number (shortColumn a) (shortColumn e) = compareColumn number a e := by
    rw [compareColumn, short, short]
    rfl
  induction as generalizing number es with
  | nil => rfl
  | cons a as ih =>
      cases es with
      | nil => rfl
      | cons e es =>
          rw [List.map_cons, List.map_cons, compareColumnsFrom, compareColumnsFrom, one, ih]

theorem shortColumns_qualify (qualifiers : Nat → Option String) :
    (t.qualify qualifiers).columns.map shortColumn = t.columns.map shortColumn := by
  have names : (t.qualify qualifiers).columnNames.map shortName = t.columnNames.map shortName := by
    refine List.ext_getElem? fun n => ?_
    rw [List.getElem?_map, List.getElem?_map, qualify, List.getElem?_mapIdx, Option.map_map]
    refine congrArg (Option.map · _) (funext fun name => ?_)
    change shortName ((qualifiers n).elim name _) = shortName name
    cases qualifiers n with
    | none => rfl
    | some qualifier => exact shortName_qualified qualifier name
  unfold columns shortColumn
  rw [← List.zip_map_left, ← List.zip_map_left, names]
  rfl

theorem compareColumns_qualify (qualifiers qualifiers' : Nat → Option String) :
    compareColumns (actual.qualify qualifiers) (expected.qualify qualifiers') =
      compareColumns actual expected := by
  unfold compareColumns
  rw [columnCount_qualify, columnCount_qualify, ← compareColumnsFrom_shortColumns,
    shortColumns_qualify, shortColumns_qualify, compareColumnsFrom_shortColumns]

end Table

/-- The outcome with qualifiers before the names of columns. -/
def Outcome.qualify (qualifiers : Nat → Option String) : Outcome → Outcome
  | .table t => .table (t.qualify qualifiers)
  | .exception e => .exception e

namespace Policy

variable (p : Policy)

theorem tableVerdict?_qualify (actual expected : Table) (isOrdered : Bool)
    (qualifiers qualifiers' : Nat → Option String) :
    p.tableVerdict? (actual.qualify qualifiers) (expected.qualify qualifiers') isOrdered =
      p.tableVerdict? actual expected isOrdered := by
  have grid (rows rows' : List IndexedRow) :
      Table.compareGrid p (actual.qualify qualifiers) rows (expected.qualify qualifiers') rows' =
        Table.compareGrid p actual rows expected rows' := by
    unfold Table.compareGrid
    rw [Table.compareColumns_qualify]
  unfold tableVerdict?
  simp only [grid]
  rfl

/-- Qualifiers of columns change nothing in a comparison. -/
theorem compare_qualify (actual expected : Outcome) (isOrdered : Bool)
    (qualifiers qualifiers' : Nat → Option String) :
    p.compare (actual.qualify qualifiers) (expected.qualify qualifiers') isOrdered =
      p.compare actual expected isOrdered := by
  match actual, expected with
  | .exception a, .table e => rfl
  | .table a, .exception e => rfl
  | .exception a, .exception e => rfl
  | .table a, .table e =>
      simp only [Outcome.qualify, compare, compare?, compareUsing?, compareTables?,
        requireWellFormed, Table.validate_qualify, tableVerdict?_qualify]
      rfl

end Policy

/-- The columns of well-formed tables agree, or else one failure of the structure tells what is
wrong with them. Qualifiers of columns change nothing in a comparison. -/
theorem Table.compareColumns_firstFault (actual expected : Table)
    (actualFormed : actual.validate = .ok ()) (expectedFormed : expected.validate = .ok ()) :
    (compareColumns actual expected = none ↔ SameColumns actual expected) ∧
      (∀ failure, compareColumns actual expected = some failure ↔
        ColumnsFault actual expected failure) ∧
      ∀ (p : Policy) (a e : Outcome) (isOrdered : Bool)
        (qualifiers qualifiers' : Nat → Option String),
        p.compare (a.qualify qualifiers) (e.qualify qualifiers') isOrdered =
          p.compare a e isOrdered :=
  ⟨compareColumns_eq_none_iff actualFormed expectedFormed, fun _ => compareColumns_eq_some_iff,
    Policy.compare_qualify⟩

/-- The first wrong column is named, and of that column the name before the type. -/
theorem Table.compareColumns_firstFault_of_two_names :
    let actual : Table := ⟨["pm1.G1.ID", "data.", "c"], ["integer", "BLOB", "x"], [], none, 0⟩
    let expected : Table := ⟨["g1.id", "label", "d"], ["Integer", "blob", "y"], [], none, 0⟩
    actual.validate = .ok () ∧ expected.validate = .ok () ∧
      ColumnsFault actual expected (.general .structural
        "Got incorrect column name at column 2, expected = label but got = ") :=
  ⟨rfl, rfl, ((compareColumns_firstFault _ _ rfl rfl).2.1 _).mp (by decide)⟩

end QueryRegression
