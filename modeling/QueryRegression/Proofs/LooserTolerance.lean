import QueryRegression.Proofs.ComparisonErrors
import QueryRegression.Proofs.DecimalRounding
import QueryRegression.Proofs.GridReport

/-!
# A looser tolerance

Decimals that match within a divergence match within every greater one, although the bounds are
rounded and need not exist (`NumericMatch.decimalOutside_of_looser`). So a greater divergence adds
no mismatch to the comparison of two tables, and makes no comparison impossible
(`Policy.compare_of_looser`). Floating-point numbers are left out.
-/

namespace QueryRegression

/-! ## Decimals -/

namespace NumericMatch

/-- A decimal is outside the divergence if it differs and either must not, or is beyond a bound that
exists. -/
theorem decimalOutside_iff {d expected actual : Decimal} :
    decimalOutside d expected actual = true ↔ expected.eq actual = false ∧ (d.units = 0 ∨
      (∃ upper, expected.add? d = some upper ∧ upper.units < actual.units) ∨
      ∃ lower, expected.add? d.neg = some lower ∧ actual.units < lower.units) := by
  unfold decimalOutside Decimal.sub?
  rw [← Decimal.isZero_iff]
  cases expected.eq actual with
  | true => exact ⟨nofun, fun ⟨differ, _⟩ => nomatch differ⟩
  | false =>
      cases d.isZero with
      | true => exact iff_of_true rfl ⟨rfl, .inl rfl⟩
      | false =>
          simp only [Bool.false_eq_true, if_false, Bool.or_eq_true, true_and, false_or]
          cases expected.add? d <;> cases expected.add? d.neg <;> simp [Decimal.lt_iff]

/-- A decimal outside a divergence is outside every lesser one. -/
theorem decimalOutside_of_looser {d₁ d₂ expected actual : Decimal} (nonnegative : 0 ≤ d₁.units)
    (looser : d₁.units ≤ d₂.units) (outside : decimalOutside d₂ expected actual = true) :
    decimalOutside d₁ expected actual = true := by
  rw [decimalOutside_iff] at outside ⊢
  obtain ⟨differ, beyond⟩ := outside
  refine ⟨differ, ?_⟩
  rcases beyond with exact | ⟨upper, sum, above⟩ | ⟨lower, sum, below⟩
  · exact .inl (by omega)
  · obtain ⟨closer, sum'⟩ := Decimal.exists_add?_of_closer (.inl ⟨nonnegative, looser⟩) sum
    have bounds := Decimal.add?_le_add? looser sum' sum
    exact .inr (.inl ⟨closer, sum', Int.lt_of_le_of_lt bounds above⟩)
  · have turned : d₂.neg.units ≤ d₁.neg.units ∧ d₁.neg.units ≤ 0 := by
      rw [Decimal.units_neg, Decimal.units_neg]
      omega
    obtain ⟨closer, sum'⟩ := Decimal.exists_add?_of_closer (.inr turned) sum
    have bounds := Decimal.add?_le_add? turned.1 sum sum'
    exact .inr (.inr ⟨closer, sum', Int.lt_of_lt_of_le below bounds⟩)

end NumericMatch

/-! ## Cells -/

/-- Whether the value is a floating-point number. -/
def Value.isFloating : Value → Bool
  | .float _ | .double _ => true
  | _ => false

/-- Under the second policy, numbers may diverge at least as far as under the first one. -/
structure Policy.IsLooser (strict loose : Policy) : Prop where
  nonnegative : 0 ≤ strict.allowedDivergence.units
  le : strict.allowedDivergence.units ≤ loose.allowedDivergence.units

variable {strict loose : Policy}

/-- Numbers of one type that are not floating-point ones are decimals. -/
theorem NumericMatch.ofValues_cases {actual : Value} (expected : Value)
    (notFloating : actual.isFloating = false) :
    (∃ e a, expected = .decimal e ∧ actual = .decimal a) ∨
      ∀ d, ofValues d expected actual = .notApplicable := by
  cases actual with
  | decimal a =>
      cases expected with
      | decimal e => exact .inl ⟨e, a, rfl, rfl⟩
      | _ => exact .inr fun d => rfl
  | float | double => cases notFloating
  | _ => exact .inr fun d => by cases expected <;> rfl

namespace CellPosition

variable {p : CellPosition}

theorem compareNormal_decimal_iff {policy : Policy} {actual expected : Decimal} :
    compareNormal policy p (.decimal actual) (.decimal expected) = none ↔
      NumericMatch.decimalOutside policy.allowedDivergence expected actual = false := by
  have compared : NumericMatch.ofValues policy.allowedDivergence (.decimal expected)
      (.decimal actual) = .ofOutside
        (NumericMatch.decimalOutside policy.allowedDivergence expected actual) := rfl
  rw [compareNormal, compared]
  cases NumericMatch.decimalOutside policy.allowedDivergence expected actual with
  | false => exact iff_of_true rfl rfl
  | true => exact ⟨nofun, nofun⟩

theorem compareNormal_of_looser {actual expected : Value} (looser : strict.IsLooser loose)
    (notFloating : actual.isFloating = false)
    (matching : compareNormal strict p actual expected = none) :
    compareNormal loose p actual expected = none := by
  rcases NumericMatch.ofValues_cases expected notFloating with ⟨e, a, rfl, rfl⟩ | inapplicable
  · rw [compareNormal_decimal_iff, Bool.eq_false_iff] at matching ⊢
    exact fun outside => matching
      (NumericMatch.decimalOutside_of_looser looser.nonnegative looser.le outside)
  · unfold compareNormal at matching ⊢
    rw [inapplicable] at matching ⊢
    exact matching

end CellPosition

/-- A value that matches still matches under a looser policy. -/
theorem Value.Matches.of_looser {actual expected : Value} (looser : strict.IsLooser loose)
    (notFloating : actual.isFloating = false) (matching : actual.Matches strict expected) :
    actual.Matches loose expected := by
  intro p
  have here := matching p
  unfold CellPosition.compareCell at here ⊢
  cases left : actual.isNull <;> cases right : expected.isNull
  · rw [left, right] at here
    unfold normalize at here ⊢
    cases form : actual.textForm? with
    | error fault => rw [form] at here; cases here
    | ok text =>
        rw [form] at here
        cases text with
        | none =>
            exact congrArg Except.ok
              (CellPosition.compareNormal_of_looser looser notFloating (Except.ok.inj here))
        | some s =>
            exact congrArg Except.ok
              (CellPosition.compareNormal_of_looser looser rfl (Except.ok.inj here))
  · rw [left, right] at here
    cases here
  · rw [left, right] at here
    cases here
  · rfl

/-- Cells that fail under the looser policy fail under the stricter one. -/
theorem CellPair.failure?_of_looser {pair : CellPair} (looser : strict.IsLooser loose)
    (notFloating : pair.actual.isFloating = false) (failed : (pair.failure? loose).isSome) :
    (pair.failure? strict).isSome := by
  have readable : pair.actual.Readable pair.expected := by
    rw [Value.readable_iff loose pair.position]
    unfold failure? at failed
    split at failed
    next found compared => exact ⟨found, compared⟩
    next => cases failed
  rw [Option.isSome_iff_ne_none, Ne, Table.failure?_eq_none_iff readable] at failed ⊢
  exact fun matching => failed (matching.of_looser looser notFloating)

/-! ## Tables -/

namespace Table

/-- The mismatches of a grid under the looser policy are among those under the stricter one. -/
theorem failureAt?_of_looser {actual expected : List IndexedRow} {place : Nat × Nat}
    (looser : strict.IsLooser loose)
    (notFloating : ∀ row ∈ actual, ∀ v ∈ row.values, v.isFloating = false)
    (failed : (failureAt? loose actual expected place).isSome) :
    (failureAt? strict actual expected place).isSome := by
  obtain ⟨failure, found⟩ := Option.isSome_iff_exists.mp failed
  obtain ⟨pair, facing, atPair⟩ := Option.bind_eq_some_iff.mp found
  obtain ⟨row, column⟩ := place
  obtain ⟨a, e, x, y, actualRow, -, atLeft, -, rfl⟩ := facing?_eq_some_iff.mp facing
  have plain := notFloating a (List.mem_of_getElem? actualRow) x (List.mem_of_getElem? atLeft)
  obtain ⟨other, atPair'⟩ := Option.isSome_iff_exists.mp
    (CellPair.failure?_of_looser looser plain (Option.isSome_iff_exists.mpr ⟨failure, atPair⟩))
  exact Option.isSome_iff_exists.mpr ⟨other, Option.bind_eq_some_iff.mpr ⟨_, facing, atPair'⟩⟩

theorem length_failures_of_looser {pairs : List CellPair} (looser : strict.IsLooser loose)
    (notFloating : ∀ pair ∈ pairs, pair.actual.isFloating = false) :
    (pairs.filterMap (CellPair.failure? loose)).length ≤
      (pairs.filterMap (CellPair.failure? strict)).length := by
  rw [List.length_filterMap_eq_countP, List.length_filterMap_eq_countP]
  exact List.countP_mono_left fun pair member =>
    CellPair.failure?_of_looser looser (notFloating pair member)

/-- A grid that is compared under the stricter policy is compared under the looser one, with at most
as many failures. -/
theorem compareGrid_of_looser {actual expected : Table} {actualRows expectedRows : List IndexedRow}
    {verdict : Verdict} (looser : strict.IsLooser loose)
    (notFloating : ∀ row ∈ actualRows, ∀ v ∈ row.values, v.isFloating = false)
    (compared : compareGrid strict actual actualRows expected expectedRows = .ok verdict) :
    ∃ verdict', compareGrid loose actual actualRows expected expectedRows = .ok verdict' ∧
      verdict'.totalFailures ≤ verdict.totalFailures ∧ (verdict = .pass → verdict' = .pass) := by
  cases columns : compareColumns actual expected with
  | some failure =>
      rw [compareGrid, columns] at compared ⊢
      exact ⟨verdict, compared, Nat.le_refl _, id⟩
  | none =>
      by_cases length : actualRows.length = expectedRows.length
      · rw [compareGrid_eq columns length] at compared ⊢
        cases cells : compareCells strict .empty (cellPairs actualRows expectedRows) with
        | error e => rw [cells] at compared; cases compared
        | ok log =>
            rw [cells] at compared
            cases compared
            obtain ⟨readable, rfl⟩ := compareCells_eq_ok_iff.mp cells
            have plain : ∀ pair ∈ cellPairs actualRows expectedRows,
                pair.actual.isFloating = false := fun pair member => by
              obtain ⟨row, inRows, inRow⟩ := mem_of_mem_cellPairs member
              exact notFloating row inRows _ inRow
            have fewer := length_failures_of_looser looser plain
            rw [compareCells_eq_ok_iff.mpr ⟨readable, rfl⟩]
            refine ⟨_, rfl, ?_, ?_⟩
            · rw [FailureLog.totalFailures_verdict, FailureLog.totalFailures_verdict]
              exact fewer
            · rw [FailureLog.verdict_eq_pass_iff, FailureLog.verdict_eq_pass_iff]
              omega
      · have counts := mt compareRowCounts_eq_none_iff.mp length
        obtain ⟨failure, counts⟩ := Option.ne_none_iff_exists'.mp counts
        rw [compareGrid, columns, counts] at compared ⊢
        exact ⟨verdict, compared, Nat.le_refl _, id⟩

end Table

namespace Policy

open Table

variable {actual expected : Table} {isOrdered : Bool}

/-- The rows in the order of comparison hold the values of the rows as delivered. -/
theorem notFloating_ordered (notFloating : ∀ row ∈ actual.rows, ∀ v ∈ row, v.isFloating = false)
    {actualRows expectedRows : List IndexedRow}
    (ordered : IndexedRow.orderIfNeeded? actual.rows expected.rows isOrdered =
      some (actualRows, expectedRows)) :
    ∀ row ∈ actualRows, ∀ v ∈ row.values, v.isFloating = false := by
  obtain ⟨perm, -⟩ := IndexedRow.orderIfNeeded?_perm ordered
  exact fun row member => notFloating _ (IndexedRow.values_mem (perm.mem_iff.mp member))

theorem tableVerdict?_of_looser {verdict : Verdict} (looser : strict.IsLooser loose)
    (notFloating : ∀ row ∈ actual.rows, ∀ v ∈ row, v.isFloating = false)
    (compared : strict.tableVerdict? actual expected isOrdered = some (.ok verdict)) :
    ∃ verdict', loose.tableVerdict? actual expected isOrdered = some (.ok verdict') ∧
      verdict'.totalFailures ≤ verdict.totalFailures ∧ (verdict = .pass → verdict' = .pass) := by
  cases hasRows : expected.hasRows with
  | false =>
      rw [tableVerdict?, hasRows, if_neg Bool.false_ne_true] at compared ⊢
      exact ⟨verdict, compared, Nat.le_refl _, id⟩
  | true =>
      rw [tableVerdict?_of_hasRows hasRows] at compared ⊢
      obtain ⟨rows, ordered, grid⟩ := Option.map_eq_some_iff.mp compared
      obtain ⟨verdict', grid', fewer⟩ :=
        compareGrid_of_looser looser (notFloating_ordered notFloating ordered) grid
      rw [ordered]
      exact ⟨verdict', congrArg some grid', fewer⟩

theorem isLooser_withDivergence (p : Policy) {d₁ d₂ : Decimal} (nonnegative : d₁.lt .zero = false)
    (looser : d₂.lt d₁ = false) : (p.withDivergence d₁).IsLooser (p.withDivergence d₂) := by
  rw [Bool.eq_false_iff, Ne, Decimal.lt_iff] at nonnegative looser
  have zero : Decimal.zero.units = 0 := rfl
  constructor
  · rw [withDivergence, Decimal.units_abs]
    omega
  · rw [withDivergence, withDivergence, Decimal.units_abs, Decimal.units_abs]
    omega

theorem formed_of_compare {p : Policy} {c : Comparison}
    (compared : p.compare (.table actual) (.table expected) isOrdered = .ok c) :
    actual.validate = .ok () ∧ expected.validate = .ok () := by
  have answered := compare_eq_ok_iff.mp compared
  change p.compareTables? actual expected isOrdered = _ at answered
  cases actualFormed : actual.validate with
  | error fault => cases (compareTables?_of_malformedActual actualFormed).symm.trans answered
  | ok _ =>
      cases expectedFormed : expected.validate with
      | error fault =>
          cases (compareTables?_of_malformedExpected actualFormed expectedFormed).symm.trans
            answered
      | ok _ => exact ⟨rfl, rfl⟩

/-- The rows can be put in order, and the cells at a place of the grid mismatch. -/
def MismatchAt (p : Policy) (actual expected : Table) (isOrdered : Bool) (place : Nat × Nat) :
    Prop :=
  ∃ actualRows expectedRows,
    IndexedRow.orderIfNeeded? actual.rows expected.rows isOrdered =
      some (actualRows, expectedRows) ∧
    (failureAt? p actualRows expectedRows place).isSome

/-- A looser tolerance adds no failure: tables without floating-point numbers that are compared
within one divergence are compared within every greater one, no cells mismatch that matched, no
failures are added, and a pass remains one. It is enough that the actual table has no floating-point
numbers. -/
theorem compare_of_looser (p : Policy) {d₁ d₂ : Decimal} (actual expected : Table)
    (isOrdered : Bool) {c₁ : Comparison} (nonnegative : d₁.lt .zero = false)
    (looser : d₂.lt d₁ = false)
    (notFloating : ∀ row ∈ actual.rows, ∀ v ∈ row, v.isFloating = false)
    (compared : (p.withDivergence d₁).compare (.table actual) (.table expected) isOrdered =
      .ok c₁) :
    ∃ c₂, (p.withDivergence d₂).compare (.table actual) (.table expected) isOrdered = .ok c₂ ∧
      (∀ place, (p.withDivergence d₂).MismatchAt actual expected isOrdered place →
        (p.withDivergence d₁).MismatchAt actual expected isOrdered place) ∧
      c₂.verdict.totalFailures ≤ c₁.verdict.totalFailures ∧
      (c₁.verdict = .pass → c₂.verdict = .pass) ∧ c₂.timeExceeded = c₁.timeExceeded := by
  obtain ⟨actualFormed, expectedFormed⟩ := formed_of_compare compared
  have policies := p.isLooser_withDivergence nonnegative looser
  simp only [compare_eq_ok_iff, compare?_eq_of_wellFormed actualFormed expectedFormed] at compared ⊢
  obtain ⟨answer, content, mapped⟩ := Option.map_eq_some_iff.mp compared
  cases answer with
  | error e => cases mapped
  | ok verdict =>
      cases mapped
      obtain ⟨verdict', content', fewer, pass⟩ :=
        tableVerdict?_of_looser policies notFloating content
      rw [content']
      refine ⟨_, rfl, ?_, fewer, pass, rfl⟩
      rintro place ⟨actualRows, expectedRows, ordered, mismatch⟩
      exact ⟨actualRows, expectedRows, ordered,
        failureAt?_of_looser policies (notFloating_ordered notFloating ordered) mismatch⟩

/-- Two rows, of which one holds another text. In the other one, the upper bound is rounded to the
expected decimal itself, but with the greater divergence it loses its last place and reaches the
actual decimal. -/
theorem compare_of_looser_two_rows :
    let little : Decimal := ⟨4, 2, by decide, by decide⟩
    let half : Decimal := ⟨5, 1, by decide, by decide⟩
    let actual : Table := ⟨["d"], ["decimal"], [[.text "b"],
      [.decimal ⟨7922816251426433759354395034, 0, by decide, by decide⟩]], none, 0⟩
    let expected : Table := ⟨["d"], ["decimal"], [[.text "a"],
      [.decimal ⟨79228162514264337593543950335, 1, by decide, by decide⟩]], none, 0⟩
    ∃ c₁ c₂,
      (exact.withDivergence little).compare (.table actual) (.table expected) false = .ok c₁ ∧
        c₁.verdict.totalFailures = 2 ∧
        (exact.withDivergence half).compare (.table actual) (.table expected) false = .ok c₂ ∧
        c₂.verdict.totalFailures ≤ 2 ∧
        ∀ place, (exact.withDivergence half).MismatchAt actual expected false place →
          (exact.withDivergence little).MismatchAt actual expected false place := by
  intro little half actual expected
  have counted : ((exact.withDivergence little).compare (.table actual) (.table expected)
      false).toOption.map (fun c => c.verdict.totalFailures) = some 2 := by decide +kernel
  cases ran : (exact.withDivergence little).compare (.table actual) (.table expected) false with
  | error e => rw [ran] at counted; cases counted
  | ok c₁ =>
      rw [ran] at counted
      have two : c₁.verdict.totalFailures = 2 := Option.some.inj counted
      have plain : ∀ row ∈ actual.rows, ∀ v ∈ row, v.isFloating = false := by decide
      have looser : half.lt little = false := by decide
      obtain ⟨c₂, compared, among, fewer, -⟩ :=
        compare_of_looser exact actual expected false (by decide) looser plain ran
      exact ⟨c₁, c₂, rfl, two, compared, two ▸ fewer, among⟩

end Policy
end QueryRegression
