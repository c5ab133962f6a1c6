import QueryRegression.Proofs.TableShape

/-!
# Tables compared with themselves

A table that is compared with its own copy need not pass: a column of blobs is expected under
another type name, a large object is read on the actual side only, and what is not a number equals
nothing.

* `Value.matches_self_iff`: the values that match themselves.
* `Table.MatchesItself`: what has to hold of a table with rows.
* `Policy.compare_self`: a table whose large objects can be read, and whose rows can be put in
  order, passes against itself if and only if that holds of it; a table without rows always passes.
-/

namespace QueryRegression

/-! ## Texts of large objects -/

namespace Text.Base64

/-- A digit of the alphabet is no bracket. -/
theorem digit_ne_bracket (n : Nat) : digit n ≠ '[' := by
  have code : ∀ k : Nat, k < 128 → k ≠ 91 → Char.ofNat k ≠ '[' := by decide
  unfold digit
  split
  · exact code _ (by omega) (by omega)
  · split
    · exact code _ (by omega) (by omega)
    · split
      · exact code _ (by omega) (by omega)
      · split <;> decide

/-- No bytes are written as a text that begins with a bracket. -/
theorem encode_ne_bracketed (bytes : List UInt8) (s : String) : encode bytes ≠ "[" ++ s := by
  intro equal
  have chars := congrArg String.toList equal
  rw [encode, String.toList_ofList, String.toList_append] at chars
  match bytes with
  | [] => simp [encodeChars] at chars
  | [a] =>
    simp only [encodeChars] at chars
    exact digit_ne_bracket _ (List.cons.inj chars).1
  | [a, b] =>
    simp only [encodeChars] at chars
    exact digit_ne_bracket _ (List.cons.inj chars).1
  | a :: b :: c :: rest =>
    simp only [encodeChars] at chars
    exact digit_ne_bracket _ (List.cons.inj chars).1

end Text.Base64

/-! ## Values -/

namespace NumericMatch

/-- A number is not outside of itself, unless it is none and must be equal. -/
theorem binaryOutside_self {f : BinaryFormat} (tolerance : Binary f) (exact : Bool)
    (x : Binary f) : binaryOutside tolerance exact x x = (exact && x.isNaN) := by
  unfold binaryOutside
  cases number : x.isNaN with
  | false => simp [Binary.eq_self number]
  | true =>
      have unequal : x.eq x = false := by simp [Binary.eq, number]
      cases exact <;> simp [unequal, Binary.lt, number]

end NumericMatch

namespace Value

variable {policy : Policy}

/-- What has to hold of a value to match itself. A large object is read on the actual side, and the
expected side has its display text. -/
def IsRepeatable (policy : Policy) : Value → Prop
  | .float x => policy.isExact = true → x.isNaN = false
  | .double x => policy.isExact = true → x.isNaN = false
  | .largeObject .blob _ => False
  | .largeObject .clob o => o.readText = .ok "[clob]"
  | .largeObject .xml o => o.readText = .ok "[xml]"
  | _ => True

theorem compareNormal_text_iff {p : CellPosition} {s t : String} :
    CellPosition.compareNormal policy p (.text s) (.text t) = none ↔ s = t := by
  unfold CellPosition.compareNormal
  simp only [NumericMatch.ofValues, isDateTime, same, beq_iff_eq]
  split
  next equal => exact ⟨fun _ => equal, fun _ => rfl⟩
  next differ =>
    simp only [Bool.or_self, Bool.false_eq_true, if_false, CellPosition.compareTexts_eq_none_iff,
      text?, Option.some.injEq]
    constructor
    · rintro ⟨u, expected, actual⟩
      exact actual.trans expected.symm
    · rintro rfl
      exact ⟨s, rfl, rfl⟩

/-- An actual value that is compared as text matches what has this text. -/
theorem matches_iff_asText_eq {actual expected : Value} {s : String}
    (form : actual.textForm? = .ok (some s)) (notNull : expected.isNull = false) :
    actual.Matches policy expected ↔ expected.asText = .text s := by
  have actualNotNull : actual.isNull = false := by
    cases actual <;> first | rfl | simp [textForm?] at form
  obtain ⟨t, text⟩ : ∃ t, expected.asText = .text t := by
    cases expected <;> first | exact ⟨_, rfl⟩ | cases notNull
  have compared : (⟨0, 0, 0, 0⟩ : CellPosition).compareCell policy actual expected =
      .ok (CellPosition.compareNormal policy ⟨0, 0, 0, 0⟩ (.text s) (.text t)) := by
    unfold CellPosition.compareCell normalize
    rw [actualNotNull, notNull, form, text]
    rfl
  rw [matches_iff ⟨0, 0, 0, 0⟩, compared, Except.ok.injEq, compareNormal_text_iff, text,
    Value.text.injEq, eq_comm]

/-- A large object matches itself if it reads as its own display text. -/
theorem largeObject_matches_self_iff {kind : LargeObjectKind} {o : LargeObject} :
    (Value.largeObject kind o).Matches policy (.largeObject kind o) ↔
      readLargeObject kind o = .ok ("[" ++ kind.name ++ "]") := by
  cases read : readLargeObject kind o with
  | error fault =>
      have unreadable : ¬Readable (.largeObject kind o) (.largeObject kind o) := by
        intro readable
        obtain ⟨form, found⟩ := readable rfl rfl
        rw [textForm?, read] at found
        cases found
      exact ⟨fun matching => absurd (matching.readable _) unreadable, nofun⟩
  | ok s =>
      have form : (Value.largeObject kind o).textForm? = .ok (some s) := by
        rw [textForm?, read]
        rfl
      have display : (Value.largeObject kind o).asText = .text ("[" ++ kind.name ++ "]") := rfl
      rw [matches_iff_asText_eq form rfl, display, text.injEq, Except.ok.injEq, eq_comm]

/-- An actual value that is not compared as text matches what it matches as it is. -/
theorem matches_iff_compareNormal {actual expected : Value} (form : actual.textForm? = .ok none)
    (actualNotNull : actual.isNull = false) (notNull : expected.isNull = false) :
    actual.Matches policy expected ↔
      CellPosition.compareNormal policy ⟨0, 0, 0, 0⟩ actual expected = none := by
  have compared : (⟨0, 0, 0, 0⟩ : CellPosition).compareCell policy actual expected =
      .ok (CellPosition.compareNormal policy ⟨0, 0, 0, 0⟩ actual expected) := by
    unfold CellPosition.compareCell normalize
    rw [actualNotNull, notNull, form]
    rfl
  rw [matches_iff ⟨0, 0, 0, 0⟩, compared, Except.ok.injEq]

/-- A number that is compared with itself as a binary number. -/
theorem compareNormal_self_iff {f : BinaryFormat} {v : Value} {x tolerance : Binary f}
    {p : CellPosition}
    (numeric : NumericMatch.ofValues policy.allowedDivergence v v =
      .ofOutside (NumericMatch.binaryOutside tolerance policy.isExact x x)) :
    CellPosition.compareNormal policy p v v = none ↔ (policy.isExact = true → x.isNaN = false) := by
  unfold CellPosition.compareNormal
  rw [numeric, NumericMatch.binaryOutside_self]
  cases policy.isExact <;> cases x.isNaN <;> simp [NumericMatch.ofOutside]

/-- Naming another error leaves what succeeds. -/
theorem mapError_eq_ok_iff {α β γ : Type} {f : α → β} {read : Except α γ} {x : γ} :
    read.mapError f = .ok x ↔ read = .ok x := by
  cases read with
  | error e => exact iff_of_false nofun nofun
  | ok y =>
      constructor
      · intro equal
        exact congrArg Except.ok (Except.ok.inj equal)
      · intro equal
        exact congrArg Except.ok (Except.ok.inj equal)

/-- The values that match themselves. -/
theorem matches_self_iff {v : Value} : v.Matches policy v ↔ v.IsRepeatable policy := by
  cases v with
  | float x => exact (matches_iff_compareNormal rfl rfl rfl).trans (compareNormal_self_iff rfl)
  | double x => exact (matches_iff_compareNormal rfl rfl rfl).trans (compareNormal_self_iff rfl)
  | largeObject kind o =>
      rw [largeObject_matches_self_iff]
      cases kind with
      | clob => exact mapError_eq_ok_iff
      | xml => exact mapError_eq_ok_iff
      | blob =>
          refine ⟨fun read => ?_, False.elim⟩
          have encoded := mapError_eq_ok_iff.mp read
          cases bytes : o.readBytes with
          | error fault =>
              rw [bytes] at encoded
              cases encoded
          | ok content =>
              rw [bytes] at encoded
              exact Text.Base64.encode_ne_bracketed content "blob]" (Except.ok.inj encoded)
  | _ => exact iff_of_true (matches_self trivial) trivial

end Value

/-! ## Tables -/

namespace Table

variable {policy : Policy} {t : Table}

/-- Every large object of the table can be read, characters as text. -/
def IsReadable (t : Table) : Prop :=
  ∀ row ∈ t.rows, ∀ (kind : LargeObjectKind) (o : LargeObject), .largeObject kind o ∈ row →
    ∃ s, Value.readLargeObject kind o = .ok s

/-- What has to hold of a table with rows to match itself. -/
structure MatchesItself (policy : Policy) (t : Table) : Prop where
  noBlobColumn : ∀ type ∈ t.columnTypes, Text.eqAsciiCase type "blob" = false
  noBlob : ∀ row ∈ t.rows, ∀ o, .largeObject .blob o ∉ row
  clob : ∀ row ∈ t.rows, ∀ o, .largeObject .clob o ∈ row → o.readText = .ok "[clob]"
  xml : ∀ row ∈ t.rows, ∀ o, .largeObject .xml o ∈ row → o.readText = .ok "[xml]"
  float : policy.isExact = true → ∀ row ∈ t.rows, ∀ x, .float x ∈ row → x.isNaN = false
  double : policy.isExact = true → ∀ row ∈ t.rows, ∀ x, .double x ∈ row → x.isNaN = false

/-- A table has its own columns if and only if none of them is of blobs. -/
theorem compareColumns_self_iff (typed : t.columnNames.length = t.columnTypes.length) :
    compareColumns t t = none ↔ ∀ type ∈ t.columnTypes, Text.eqAsciiCase type "blob" = false := by
  have types : t.columns.map Prod.snd = t.columnTypes := by
    rw [columns, List.map_snd_zip (Nat.le_of_eq typed.symm)]
  rw [compareColumns, if_neg (fun differ => differ rfl), compareColumnsFrom_self_iff, ← types,
    List.forall_mem_map]

theorem rowsMatch_self_iff {row : Row} :
    RowsMatch policy row row ↔ ∀ v ∈ row, v.IsRepeatable policy := by
  constructor
  · intro matching v member
    obtain ⟨column, found⟩ := List.mem_iff_getElem?.mp member
    exact Value.matches_self_iff.mp (matching column v v found found)
  · intro repeatable column x y left right
    rw [left] at right
    cases right
    exact Value.matches_self_iff.mpr (repeatable x (List.mem_of_getElem? left))

/-- The same rows are put in the same order. -/
theorem orderIfNeeded?_self {rows : List Row} {isOrdered : Bool} {left right : List IndexedRow}
    (ordered : IndexedRow.orderIfNeeded? rows rows isOrdered = some (left, right)) :
    left = right := by
  unfold IndexedRow.orderIfNeeded? at ordered
  split at ordered
  · cases ordered
    rfl
  · obtain ⟨a, sorted, rest⟩ := Option.bind_eq_some_iff.mp ordered
    obtain ⟨e, sorted', pair⟩ := Option.bind_eq_some_iff.mp rest
    cases pair
    exact Option.some.inj (sorted.symm.trans sorted')

/-- Rows face themselves. -/
theorem zip_orderIfNeeded?_self_iff {rows : List Row} {isOrdered : Bool} {P : Row → Row → Prop}
    {left right : List IndexedRow}
    (ordered : IndexedRow.orderIfNeeded? rows rows isOrdered = some (left, right)) :
    (∀ pair ∈ left.zip right, P pair.1.values pair.2.values) ↔ ∀ row ∈ rows, P row row := by
  obtain ⟨perm, -⟩ := IndexedRow.orderIfNeeded?_perm ordered
  have values := perm.map IndexedRow.values
  rw [IndexedRow.map_values_ofRows] at values
  rw [← orderIfNeeded?_self ordered]
  constructor
  · intro facing row member
    obtain ⟨indexed, inOrder, rfl⟩ := List.mem_map.mp (values.mem_iff.mpr member)
    obtain ⟨i, found⟩ := List.mem_iff_getElem?.mp inOrder
    have both := List.getElem?_zip_eq_some (z := (indexed, indexed)).mpr ⟨found, found⟩
    exact facing _ (List.mem_of_getElem? both)
  · intro each pair inZip
    obtain ⟨i, found⟩ := List.mem_iff_getElem?.mp inZip
    obtain ⟨left, right⟩ := List.getElem?_zip_eq_some.mp found
    have same : pair.1 = pair.2 := Option.some.inj (left.symm.trans right)
    rw [← same]
    exact each _ (values.mem_iff.mp (List.mem_map_of_mem (List.mem_of_getElem? left)))

/-- A table matches itself if its columns do and all its values do. -/
theorem matchesItself_iff (typed : t.columnNames.length = t.columnTypes.length) :
    MatchesItself policy t ↔
      compareColumns t t = none ∧ ∀ row ∈ t.rows, ∀ v ∈ row, v.IsRepeatable policy := by
  rw [compareColumns_self_iff typed]
  constructor
  · intro itself
    refine ⟨itself.noBlobColumn, fun row inRows v inRow => ?_⟩
    cases v with
    | float x => exact fun exact => itself.float exact row inRows x inRow
    | double x => exact fun exact => itself.double exact row inRows x inRow
    | largeObject kind o =>
        cases kind with
        | clob => exact itself.clob row inRows o inRow
        | xml => exact itself.xml row inRows o inRow
        | blob => exact itself.noBlob row inRows o inRow
    | _ => trivial
  · rintro ⟨noBlobColumn, repeatable⟩
    exact {
      noBlobColumn
      noBlob := fun row inRows o inRow => repeatable row inRows _ inRow
      clob := fun row inRows o inRow => repeatable row inRows _ inRow
      xml := fun row inRows o inRow => repeatable row inRows _ inRow
      float := fun exact row inRows x inRow => repeatable row inRows _ inRow exact
      double := fun exact row inRows x inRow => repeatable row inRows _ inRow exact }

theorem IsReadable.readable (readable : t.IsReadable) {row : Row} (inRows : row ∈ t.rows)
    {v : Value} (inRow : v ∈ row) (expected : Value) : v.Readable expected := by
  cases v with
  | largeObject kind o =>
      intro _ _
      obtain ⟨s, read⟩ := readable row inRows kind o inRow
      exact ⟨some s, by rw [Value.textForm?, read]; rfl⟩
  | _ => exact Value.readable_of_not_largeObject rfl expected

end Table

namespace Policy

open Table IndexedRow

/-- A query is not late that took exactly the expected time. -/
theorem timeExcess?_self (p : Policy) (time : Nat) : p.timeExcess? time time = none := by
  have number : (Binary.ofNat time : Binary64).isNaN = false := by
    have bound := BinaryFormat.double.round_le (time * BinaryFormat.double.one) 1
    exact decide_eq_false (Nat.not_lt.mpr bound)
  have reflexive : (Binary.ofNat time : Binary64).le (.ofNat time) = true := by
    simp [Binary.le, number]
  simp [timeExcess?, reflexive]

theorem compareGrid_eq_ok {p : Policy} {actual expected : Table}
    {actualRows expectedRows : List IndexedRow}
    (readable : ∀ pair ∈ cellPairs actualRows expectedRows, pair.actual.Readable pair.expected) :
    ∃ verdict, compareGrid p actual actualRows expected expectedRows = .ok verdict := by
  unfold compareGrid
  split
  · exact ⟨_, rfl⟩
  · split
    · exact ⟨_, rfl⟩
    · rw [compareCells_of_readable .empty readable]
      exact ⟨_, rfl⟩

/-- Well-formed tables are compared without an error if every large object of the actual one can be
read. They are compared if and only if their rows can be put in order. -/
theorem compare?_of_isReadable (p : Policy) {actual expected : Table} (isOrdered : Bool)
    (actualFormed : actual.validate = .ok ()) (expectedFormed : expected.validate = .ok ())
    (readable : actual.IsReadable) :
    (p.compare? (.table actual) (.table expected) isOrdered = none ↔
        orderIfNeeded? actual.rows expected.rows isOrdered = none) ∧
      ∀ answer, p.compare? (.table actual) (.table expected) isOrdered = some answer →
        ∃ c, answer = .ok c := by
  rw [compare?_eq_of_wellFormed actualFormed expectedFormed]
  cases hasRows : expected.hasRows with
  | false =>
      have delivered : orderIfNeeded? actual.rows expected.rows isOrdered =
          some (ofRows actual.rows, ofRows expected.rows) := by
        rw [hasRows_eq_false_iff.mp hasRows]
        exact if_pos (Bool.or_true _)
      rw [delivered, tableVerdict?, if_neg (Bool.not_eq_true _ ▸ hasRows)]
      split
      all_goals
        refine ⟨iff_of_false (Option.some_ne_none _) (Option.some_ne_none _),
          fun answer found => ?_⟩
        cases found
        exact ⟨_, rfl⟩
  | true =>
      rw [tableVerdict?_of_hasRows hasRows, Option.map_eq_none_iff, Option.map_eq_none_iff]
      refine ⟨.rfl, fun answer found => ?_⟩
      obtain ⟨verdict?, decided, rfl⟩ := Option.map_eq_some_iff.mp found
      obtain ⟨⟨actualRows, expectedRows⟩, ordered, rfl⟩ := Option.map_eq_some_iff.mp decided
      have inGrid : ∀ pair ∈ cellPairs actualRows expectedRows,
          pair.actual.Readable pair.expected := by
        intro pair member
        obtain ⟨row, inOrder, inRow⟩ := mem_of_mem_cellPairs member
        have delivered := (orderIfNeeded?_perm ordered).1.mem_iff.mp inOrder
        exact readable.readable (values_mem delivered) inRow pair.expected
      obtain ⟨verdict, compared⟩ := compareGrid_eq_ok inGrid
      rw [compared]
      exact ⟨_, rfl⟩

/-- A table takes as long as it is expected to, so whether it passes against itself depends on the
verdict only. -/
theorem timeExceeded_self {p : Policy} {t : Table} {isOrdered : Bool} {c : Comparison}
    (formed : t.validate = .ok ())
    (compared : p.compare (.table t) (.table t) isOrdered = .ok c) : c.timeExceeded = none := by
  rw [compare_eq_ok_iff, compare?_eq_of_wellFormed formed formed, timeExcess?_self] at compared
  obtain ⟨answer, -, mapped⟩ := Option.map_eq_some_iff.mp compared
  cases answer <;> cases mapped
  rfl

/-- A comparison of a table with itself is a pass as a whole if its verdict is one. -/
theorem isPass_self_iff {p : Policy} {t : Table} {isOrdered : Bool} {c : Comparison}
    (formed : t.validate = .ok ())
    (compared : p.compare (.table t) (.table t) isOrdered = .ok c) :
    c.isPass = true ↔ p.Passes t t isOrdered := by
  have inTime : c.timeExceeded = none := timeExceeded_self formed compared
  have alone : c.isPass = true ↔ c.verdict = .pass := by
    rw [Comparison.isPass, inTime]
    cases c.verdict <;> simp [Verdict.isPass]
  rw [alone, Passes]
  constructor
  · exact fun verdict => ⟨c, compared, verdict⟩
  · rintro ⟨c', equal, verdict⟩
    rw [compared] at equal
    cases equal
    exact verdict

/-- A table whose large objects can be read gets no error against itself. It is compared if and only
if its rows can be put in order, as they can if nothing is sorted or their keys are in a consistent
order. Then it passes if and only if it matches itself, or without rows always. -/
theorem compare_self (p : Policy) (t : Table) (isOrdered : Bool) (formed : t.validate = .ok ())
    (readable : t.IsReadable) :
    (p.compare? (.table t) (.table t) isOrdered = none ↔
        orderIfNeeded? t.rows t.rows isOrdered = none) ∧
      (isOrdered = true ∨ t.hasRows = false ∨ HasConsistentKeys t.rows →
        p.compare? (.table t) (.table t) isOrdered ≠ none) ∧
      ∀ answer, p.compare? (.table t) (.table t) isOrdered = some answer →
        ∃ c, answer = .ok c ∧
          (t.hasRows = true → (c.isPass = true ↔ MatchesItself p t)) ∧
          (t.hasRows = false → c.isPass = true) := by
  obtain ⟨broken, noError⟩ := compare?_of_isReadable p isOrdered formed formed readable
  refine ⟨broken, fun orderly => ?_, fun answer found => ?_⟩
  · rw [ne_eq, broken]
    rcases orderly with rfl | rowless | consistent
    · nofun
    · rw [hasRows_eq_false_iff.mp rowless]
      cases isOrdered <;> nofun
    · cases isOrdered with
      | true => nofun
      | false =>
          have widths := (validate_eq_ok_iff.mp formed).2
          rw [orderIfNeeded?_of_consistent widths widths consistent consistent rfl]
          nofun
  · obtain ⟨c, rfl⟩ := noError answer found
    have pass := isPass_self_iff formed (compare_eq_ok_iff.mpr found)
    refine ⟨c, rfl, fun hasRows => ?_, fun rowless => ?_⟩
    · have typed := (validate_eq_ok_iff.mp formed).1
      have shape : SameShape t t ↔ compareColumns t t = none := and_iff_left rfl
      have inOrder : orderIfNeeded? t.rows t.rows isOrdered ≠ none := fun noOrder =>
        nomatch (broken.mpr noOrder).symm.trans found
      obtain ⟨⟨left, right⟩, ordered⟩ := Option.ne_none_iff_exists'.mp inOrder
      rw [pass, passes_iff_rowsMatch formed formed hasRows ordered, shape, matchesItself_iff typed,
        zip_orderIfNeeded?_self_iff (P := RowsMatch p) ordered]
      simp only [rowsMatch_self_iff]
    · rw [pass, passes_iff_tableVerdict? formed formed, tableVerdict?_of_rowless rowless rowless]
      unfold compareUpdateCounts
      cases t.updateCount <;> simp

/-- Two rows with a character object that reads as its display text, bytes, and a double that is not
a number, under a policy with a divergence. -/
theorem compare_self_two_rows :
    let p := exact.withDivergence ⟨1, 0, by decide, by decide⟩
    let clob : LargeObject := ⟨7, .ok [0x5B, 0x63, 0x6C, 0x6F, 0x62, 0x5D]⟩
    let t : Table := ⟨["a.k", "c", "d"], ["byte[]", "clob", "double"],
      [[.bytes [1, 2], .largeObject .clob clob, .double .nan],
        [.boxedBytes [-1], .null, .double .zero]], none, 40⟩
    t.validate = .ok () ∧ t.IsReadable ∧ t.hasRows = true ∧ MatchesItself p t ∧
      ∃ c, p.compare (.table t) (.table t) false = .ok c ∧ c.isPass = true := by
  intro p clob t
  have decoded : Text.Utf8.decode [0x5B, 0x63, 0x6C, 0x6F, 0x62, 0x5D] = .ok "[clob]" := by
    have chars : Text.Utf8.decodeFrom 0 [0x5B, 0x63, 0x6C, 0x6F, 0x62, 0x5D] =
        .ok "[clob]".toList := by
      simp [Text.Utf8.decodeFrom, bind, Except.bind, pure, Except.pure]
    rw [Text.Utf8.decode, chars]
    exact congrArg Except.ok String.ofList_toList
  have read : clob.readText = .ok "[clob]" := Value.mapError_eq_ok_iff.mpr decoded
  have readable : t.IsReadable := by
    intro row inRows kind o inRow
    simp only [t, List.mem_cons, List.not_mem_nil, or_false] at inRows
    rcases inRows with rfl | rfl <;> simp at inRow
    obtain ⟨rfl, rfl⟩ := inRow
    exact ⟨"[clob]", congrArg (Except.mapError _) read⟩
  have itself : MatchesItself p t := by
    refine (matchesItself_iff rfl).mpr ⟨by decide, ?_⟩
    have tolerant : p.isExact = false := by decide
    simp [t, Value.IsRepeatable, read, tolerant]
  have consistent : HasConsistentKeys t.rows := by decide +kernel
  obtain ⟨-, compares, answers⟩ := compare_self p t false rfl readable
  obtain ⟨answer, found⟩ := Option.ne_none_iff_exists'.mp (compares (.inr (.inr consistent)))
  obtain ⟨c, rfl, withRows, -⟩ := answers answer found
  exact ⟨rfl, readable, rfl, itself, c, compare_eq_ok_iff.mpr found, (withRows rfl).mpr itself⟩

end Policy
end QueryRegression
