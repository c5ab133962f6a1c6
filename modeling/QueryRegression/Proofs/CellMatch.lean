import QueryRegression.Compare.Cell

/-!
# What the comparison of two cells depends on

* `Value.Readable`: the condition under which two cells can be compared at all, which is about the
  large objects that have to be read.
* `Value.Matches`: an actual value matches an expected one. Where the two stand does not count
  (`Value.matches_iff`).
* `CellPosition.compareCell_position`: a failure bears the place at which it was found.
* `Value.matches_self`: a value matches itself, unless it is a large object or not a number.
-/

namespace QueryRegression

/-! ## Places -/

/-- The place that a mismatch bears. -/
def Mismatch.position (m : Mismatch) : CellPosition :=
  ⟨m.row, m.column, m.actualDeliveredRow, m.expectedDeliveredRow⟩

/-- A failure of the cell at a place. -/
def Failure.IsAt (failure : Failure) (p : CellPosition) : Prop :=
  failure.kind = .cell ∧ failure.mismatch.map Mismatch.position = some p

theorem TextMismatch.find?_eq_none_iff {expected actual : String} :
    find? expected actual = none ↔ expected = actual := by
  unfold find?
  split
  next equal => exact ⟨fun _ => equal, fun _ => rfl⟩
  next differ => exact ⟨nofun, fun equal => absurd equal differ⟩

namespace CellPosition

variable {policy : Policy} {p q : CellPosition} {actual expected : Value}

theorem failure_isAt (p : CellPosition) (expected actual : Value) (message : String) :
    (p.failure expected actual message).IsAt p := ⟨rfl, rfl⟩

theorem compareTexts_isAt {failure : Failure}
    (found : p.compareTexts expected actual = some failure) : failure.IsAt p := by
  unfold compareTexts at found
  split at found
  · cases found
    exact failure_isAt ..
  · cases found
    exact failure_isAt ..
  · obtain ⟨m, -, rfl⟩ := Option.map_eq_some_iff.mp found
    exact failure_isAt ..

theorem compareNormal_isAt {failure : Failure}
    (found : compareNormal policy p actual expected = some failure) : failure.IsAt p := by
  unfold compareNormal at found
  split at found
  · cases found
  · cases found
    exact failure_isAt ..
  · split at found
    · cases found
    · split at found
      · exact compareTexts_isAt found
      · exact compareTexts_isAt found

/-- A failure bears the place at which it was found. -/
theorem compareCell_isAt {failure : Failure}
    (found : p.compareCell policy actual expected = .ok (some failure)) : failure.IsAt p := by
  unfold compareCell at found
  split at found
  · cases found
  · cases normal : Value.normalize actual expected with
    | error fault => rw [normal] at found; cases found
    | ok values =>
        rw [normal] at found
        exact compareNormal_isAt (Except.ok.inj found)
  · cases found
    exact failure_isAt ..

/-! ## Matches -/

theorem compareTexts_eq_none_iff :
    p.compareTexts expected actual = none ↔
      ∃ s, expected.text? = some s ∧ actual.text? = some s := by
  unfold compareTexts
  split
  next missing => simp [missing]
  next expectedText missing => simp [missing]
  next e a expectedText actualText =>
    rw [Option.map_eq_none_iff, TextMismatch.find?_eq_none_iff, expectedText, actualText]
    constructor
    · rintro rfl
      exact ⟨e, rfl, rfl⟩
    · rintro ⟨s, left, right⟩
      exact (Option.some.inj left).trans (Option.some.inj right).symm

/-- Whether comparable values match does not depend on their place. -/
theorem compareNormal_eq_none_iff :
    compareNormal policy p actual expected = none ↔
      compareNormal policy q actual expected = none := by
  unfold compareNormal
  split
  · exact Iff.rfl
  · exact ⟨nofun, nofun⟩
  · split
    · exact Iff.rfl
    · split
      · rw [compareTexts_eq_none_iff, compareTexts_eq_none_iff]
      · rw [compareTexts_eq_none_iff, compareTexts_eq_none_iff]

end CellPosition

namespace Value

variable {policy : Policy} {actual expected : Value}

/-- Whatever has to be read to compare the values can be read. -/
def Readable (actual expected : Value) : Prop :=
  actual.isNull = false → expected.isNull = false → ∃ form, actual.textForm? = .ok form

/-- The actual value matches the expected one, wherever the two stand. -/
def Matches (policy : Policy) (actual expected : Value) : Prop :=
  ∀ p : CellPosition, p.compareCell policy actual expected = .ok none

/-- Cells can be compared if and only if what has to be read can be read. -/
theorem readable_iff (policy : Policy) (p : CellPosition) :
    Readable actual expected ↔ ∃ found, p.compareCell policy actual expected = .ok found := by
  unfold Readable CellPosition.compareCell
  cases actual.isNull <;> cases expected.isNull
  · unfold normalize
    cases form : actual.textForm? with
    | error fault =>
        constructor
        · intro readable
          obtain ⟨form, read⟩ := readable rfl rfl
          cases read
        · rintro ⟨found, equal⟩
          cases equal
    | ok text =>
        cases text with
        | none => exact ⟨fun _ => ⟨_, rfl⟩, fun _ _ _ => ⟨none, rfl⟩⟩
        | some s => exact ⟨fun _ => ⟨_, rfl⟩, fun _ _ _ => ⟨some s, rfl⟩⟩
  · exact ⟨fun _ => ⟨_, rfl⟩, fun _ _ => nofun⟩
  · exact ⟨fun _ => ⟨_, rfl⟩, fun _ => nofun⟩
  · exact ⟨fun _ => ⟨_, rfl⟩, fun _ => nofun⟩

/-- Values that match at one place match at all. -/
theorem matches_iff (p : CellPosition) :
    actual.Matches policy expected ↔ p.compareCell policy actual expected = .ok none := by
  refine ⟨fun everywhere => everywhere p, fun here q => ?_⟩
  unfold CellPosition.compareCell at here ⊢
  cases left : actual.isNull <;> cases right : expected.isNull
  · rw [left, right] at here
    cases normal : normalize actual expected with
    | error fault => rw [normal] at here; cases here
    | ok values =>
        rw [normal] at here
        exact congrArg Except.ok
          (CellPosition.compareNormal_eq_none_iff.mp (Except.ok.inj here))
  · rw [left, right] at here
    cases here
  · rw [left, right] at here
    cases here
  · rfl

instance : Decidable (actual.Matches policy expected) :=
  match compared : CellPosition.compareCell policy ⟨0, 0, 0, 0⟩ actual expected with
  | .ok none => isTrue ((matches_iff _).mpr compared)
  | .ok (some _) => isFalse fun everywhere => nomatch compared.symm.trans (everywhere _)
  | .error _ => isFalse fun everywhere => nomatch compared.symm.trans (everywhere _)

theorem Matches.isNull_eq (matching : actual.Matches policy expected) :
    actual.isNull = expected.isNull := by
  have here := matching ⟨0, 0, 0, 0⟩
  unfold CellPosition.compareCell at here
  split at here
  next left right => rw [left, right]
  next left right => rw [left, right]
  next => cases here

/-- A value that matches another one can be read, whatever it is compared with. -/
theorem Matches.readable (matching : actual.Matches policy expected) (other : Value) :
    Readable actual other := by
  intro notNull _
  have readable := (readable_iff policy ⟨0, 0, 0, 0⟩).mpr ⟨none, matching _⟩
  exact readable notNull (matching.isNull_eq.symm.trans notNull)

theorem readable_of_not_largeObject (notKept : actual.isLargeObject = false) (expected : Value) :
    Readable actual expected := by
  intro _ _
  cases actual with
  | largeObject kind o => cases notKept
  | bytes b => exact ⟨_, rfl⟩
  | boxedBytes b => exact ⟨_, rfl⟩
  | _ => exact ⟨none, rfl⟩

/-! ## A value and itself -/

/-- A value that is neither a large object nor a float that is not a number. -/
def IsPlain : Value → Prop
  | .float v => v.isNaN = false
  | .double v => v.isNaN = false
  | .largeObject _ _ => False
  | _ => True

end Value

theorem Binary.eq_self {f : BinaryFormat} {x : Binary f} (number : x.isNaN = false) :
    x.eq x = true := by
  simp [Binary.eq, number]

theorem Decimal.eq_self (d : Decimal) : d.eq d = true := by
  simp [Decimal.eq, Decimal.compare, Std.ReflOrd.compare_self]

namespace Value

/-- A plain value equals itself. -/
theorem IsPlain.same_self {v : Value} (plain : v.IsPlain) : v.same v = true := by
  cases v with
  | float x => exact Binary.eq_self plain
  | double x => exact Binary.eq_self plain
  | decimal d => exact Decimal.eq_self d
  | largeObject kind o => exact plain.elim
  | _ => simp [same]

theorem IsPlain.ofValues_self {v : Value} (plain : v.IsPlain) (divergence : Decimal) :
    NumericMatch.ofValues divergence v v ≠ .outside := by
  cases v with
  | float x =>
      simp [NumericMatch.ofValues, NumericMatch.binaryOutside, NumericMatch.ofOutside,
        Binary.eq_self plain]
  | double x =>
      simp [NumericMatch.ofValues, NumericMatch.binaryOutside, NumericMatch.ofOutside,
        Binary.eq_self plain]
  | decimal d =>
      simp [NumericMatch.ofValues, NumericMatch.decimalOutside, NumericMatch.ofOutside,
        Decimal.eq_self]
  | _ => exact nofun

theorem IsPlain.compareNormal_self {v : Value} (plain : v.IsPlain) (p : CellPosition) :
    CellPosition.compareNormal policy p v v = none := by
  unfold CellPosition.compareNormal
  split
  next => rfl
  next outside => exact absurd outside (plain.ofValues_self policy.allowedDivergence)
  next => rw [if_pos plain.same_self]

/-- A plain value matches itself, because it equals itself or is compared with its own text. -/
theorem matches_self {v : Value} (plain : v.IsPlain) : v.Matches policy v := by
  have text : ∀ (p : CellPosition) (s : String),
      CellPosition.compareNormal policy p (.text s) (.text s) = none := fun p s =>
    IsPlain.compareNormal_self (v := .text s) trivial p
  intro p
  cases v with
  | null => rfl
  | largeObject kind o => exact plain.elim
  | bytes b => exact congrArg Except.ok (text p (Text.Base64.encode b))
  | boxedBytes b => exact congrArg Except.ok (text p (Text.Base64.encode (unboxBytes b)))
  | _ => exact congrArg Except.ok (plain.compareNormal_self p)

end Value
end QueryRegression
