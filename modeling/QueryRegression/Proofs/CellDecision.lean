import QueryRegression.Proofs.CellMatch
import QueryRegression.Proofs.ValueOrder

/-!
# The decision about a cell

The rules for a cell are tried one after the other, and each of them may decide. What they come to
is said here without their order.

* `Value.Agrees`: two values in comparable form agree, as numbers within the divergence, as equal
  values, or as equal texts where one of them is a date or a time.
* `CellPosition.compareNormal_eq_none_iff_agrees`: comparable values match if and only if they
  agree. The rules for texts never let a pair pass that was unequal before.
* `CellPosition.compareCell_decision`: a cell matches if both values are null, or neither is and
  their comparable forms agree. Otherwise there is one failure, which bears the place.
-/

namespace QueryRegression

namespace Value

/-! ## Agreement -/

/-- Two numbers of one of the three types that are compared within the divergence. -/
inductive NumericPair : Value → Value → Prop
  | decimal (a b : Decimal) : NumericPair (.decimal a) (.decimal b)
  | double (a b : Binary64) : NumericPair (.double a) (.double b)
  | float (a b : Binary32) : NumericPair (.float a) (.float b)

/-- Whether the value is a sequence of bytes, delivered in either way. -/
def isBinary : Value → Bool
  | .bytes _ | .boxedBytes _ => true
  | _ => false

/-- Two values in comparable form agree. A numeric pair agrees within the divergence and in no
other way. -/
inductive Agrees (policy : Policy) (actual expected : Value) : Prop
  | numbers (pair : NumericPair actual expected)
    (within : NumericMatch.ofValues policy.allowedDivergence expected actual = .within)
  | equal (noPair : ¬NumericPair actual expected) (same : actual.same expected = true)
  | texts (noPair : ¬NumericPair actual expected)
    (dateTime : actual.isDateTime = true ∨ expected.isDateTime = true)
    (text : actual.toText = expected.toText)

theorem NumericPair.sameType {a b : Value} (pair : NumericPair a b) : SameType a b := by
  cases pair with
  | decimal a b => exact .decimal a b
  | double a b => exact .double a b
  | float a b => exact .float a b

/-- Equal values have one type. -/
theorem SameType.of_same {a b : Value} (equal : a.same b = true) : SameType a b := by
  unfold same at equal
  split at equal
  case h_16 k a l b =>
    have kinds : k = l := by simp_all
    subst kinds
    exact .largeObject k a b
  case h_17 => cases equal
  all_goals constructor

theorem same_of_text?_eq {a b : Value} {s : String} (left : a.text? = some s)
    (right : b.text? = some s) : a.same b = true := by
  cases a <;> cases left
  cases b <;> cases right
  exact beq_self_eq_true s

/-! ## Comparable forms -/

variable {actual expected : Value}

/-- What is neither bytes nor a large object is compared as it is. -/
theorem normalize_of_plain (notBinary : actual.isBinary = false)
    (notKept : actual.isLargeObject = false) (expected : Value) :
    normalize actual expected = .ok (actual, expected) := by
  cases actual with
  | bytes b => cases notBinary
  | boxedBytes b => cases notBinary
  | largeObject kind o => cases notKept
  | _ => rfl

end Value

/-- Values are no tolerant numbers to compare if and only if they are no numeric pair. -/
theorem NumericMatch.ofValues_eq_notApplicable_iff {divergence : Decimal}
    {expected actual : Value} :
    ofValues divergence expected actual = .notApplicable ↔ ¬actual.NumericPair expected := by
  have decided : ∀ outside : Bool, ofOutside outside ≠ .notApplicable := by decide
  constructor
  · intro notApplicable pair
    cases pair with
    | decimal a e => exact decided _ notApplicable
    | double a e => exact decided _ notApplicable
    | float a e => exact decided _ notApplicable
  · intro noPair
    unfold ofValues
    split
    · exact absurd (.decimal _ _) noPair
    · exact absurd (.double _ _) noPair
    · exact absurd (.float _ _) noPair
    · rfl

/-- Only a numeric pair is decided by the divergence. -/
theorem NumericMatch.numericPair_of_ofValues_eq {divergence : Decimal} {expected actual : Value}
    {m : NumericMatch} (decided : ofValues divergence expected actual = m)
    (applicable : m ≠ .notApplicable) : actual.NumericPair expected := by
  apply Classical.byContradiction
  intro noPair
  exact applicable (decided.symm.trans (ofValues_eq_notApplicable_iff.mpr noPair))

namespace CellPosition

open Value

variable {policy : Policy} {p : CellPosition} {actual expected : Value}

/-! ## The rules together -/

/-- After the numeric rule there are equality and the rules for texts. Two values that are both
texts and unequal stay unequal as texts. -/
theorem compare_without_numbers_iff (noPair : ¬NumericPair actual expected) :
    (if actual.same expected then none
      else if actual.isDateTime || expected.isDateTime then
        p.compareTexts (.text expected.toText) (.text actual.toText)
      else p.compareTexts expected actual) = none ↔ actual.Agrees policy expected := by
  by_cases same : actual.same expected = true
  · rw [if_pos same]
    exact iff_of_true rfl (.equal noPair same)
  · rw [if_neg same]
    by_cases dateTime : (actual.isDateTime || expected.isDateTime) = true
    · rw [if_pos dateTime, compareTexts_eq_none_iff]
      rw [Bool.or_eq_true] at dateTime
      constructor
      · intro texts
        rcases texts with ⟨s, expectedText, actualText⟩
        exact .texts noPair dateTime
          ((Option.some.inj actualText).trans (Option.some.inj expectedText).symm)
      · intro agrees
        cases agrees with
        | numbers pair => exact absurd pair noPair
        | equal _ equal => exact absurd equal same
        | texts _ _ text => exact ⟨expected.toText, rfl, congrArg some text⟩
    · rw [if_neg dateTime, compareTexts_eq_none_iff]
      rw [Bool.or_eq_true] at dateTime
      constructor
      · intro texts
        rcases texts with ⟨s, expectedText, actualText⟩
        exact absurd (same_of_text?_eq actualText expectedText) same
      · intro agrees
        cases agrees with
        | numbers pair => exact absurd pair noPair
        | equal _ equal => exact absurd equal same
        | texts _ either => exact absurd either dateTime

/-- Comparable values match if and only if they agree. -/
theorem compareNormal_eq_none_iff_agrees :
    compareNormal policy p actual expected = none ↔ actual.Agrees policy expected := by
  unfold compareNormal
  cases numbers : NumericMatch.ofValues policy.allowedDivergence expected actual with
  | notApplicable =>
      exact compare_without_numbers_iff (NumericMatch.ofValues_eq_notApplicable_iff.mp numbers)
  | within =>
      have pair : NumericPair actual expected :=
        NumericMatch.numericPair_of_ofValues_eq numbers nofun
      exact iff_of_true rfl (.numbers pair numbers)
  | outside =>
      have pair : NumericPair actual expected :=
        NumericMatch.numericPair_of_ofValues_eq numbers nofun
      refine iff_of_false nofun fun agrees => ?_
      cases agrees with
      | numbers _ within => cases numbers.symm.trans within
      | equal noPair => exact noPair pair
      | texts noPair => exact noPair pair

/-- Two values of which neither is null match if and only if their comparable forms agree. -/
theorem compareCell_eq_ok_none_iff_agrees (actualNotNull : actual.isNull = false)
    (expectedNotNull : expected.isNull = false) :
    p.compareCell policy actual expected = .ok none ↔
      ∃ a e, normalize actual expected = .ok (a, e) ∧ a.Agrees policy e := by
  unfold compareCell
  rw [actualNotNull, expectedNotNull]
  cases forms : normalize actual expected with
  | error fault =>
      refine iff_of_false nofun fun ⟨a, e, equal, agrees⟩ => ?_
      cases equal
  | ok pair =>
      obtain ⟨a, e⟩ := pair
      constructor
      · intro compared
        exact ⟨a, e, rfl, compareNormal_eq_none_iff_agrees.mp (Except.ok.inj compared)⟩
      · intro comparable
        rcases comparable with ⟨a', e', equal, agrees⟩
        cases equal
        exact congrArg Except.ok (compareNormal_eq_none_iff_agrees.mpr agrees)

/-- Two nulls match, and null matches nothing else. -/
theorem compareCell_eq_ok_none_of_isNull (null : actual.isNull = true ∨ expected.isNull = true) :
    p.compareCell policy actual expected = .ok none ↔ actual = .null ∧ expected = .null := by
  rw [← isNull_iff, ← isNull_iff]
  unfold compareCell
  cases left : actual.isNull <;> cases right : expected.isNull
  · rw [left, right] at null
    rcases null with null | null <;> cases null
  · exact iff_of_false nofun (fun both => nomatch both.1)
  · exact iff_of_false nofun (fun both => nomatch both.2)
  · exact iff_of_true rfl ⟨rfl, rfl⟩

/-- Values of two types do not agree, unless one of them is a date or a time. -/
theorem not_agrees_of_unlike (unlike : ¬SameType actual expected)
    (noDateTime : actual.isDateTime = false ∧ expected.isDateTime = false) :
    ¬actual.Agrees policy expected := by
  intro agrees
  cases agrees with
  | numbers pair => exact unlike pair.sameType
  | equal _ same => exact unlike (.of_same same)
  | texts _ dateTime =>
      rcases dateTime with left | right
      · cases noDateTime.1.symm.trans left
      · cases noDateTime.2.symm.trans right

/-- A cell matches if and only if both values are null, or neither is and their comparable forms
agree. -/
theorem compareCell_eq_ok_none_iff :
    p.compareCell policy actual expected = .ok none ↔
      actual = .null ∧ expected = .null ∨
        actual ≠ .null ∧ expected ≠ .null ∧
          ∃ a e, normalize actual expected = .ok (a, e) ∧ a.Agrees policy e := by
  by_cases null : actual.isNull = true ∨ expected.isNull = true
  · rw [compareCell_eq_ok_none_of_isNull null, or_iff_left]
    intro comparable
    rcases comparable with ⟨actualNotNull, expectedNotNull, -⟩
    rcases null with left | right
    · exact actualNotNull (isNull_iff.mp left)
    · exact expectedNotNull (isNull_iff.mp right)
  · rw [not_or] at null
    have actualNotNull : actual ≠ .null := mt isNull_iff.mpr null.1
    have expectedNotNull : expected ≠ .null := mt isNull_iff.mpr null.2
    rw [Bool.not_eq_true, Bool.not_eq_true] at null
    rw [compareCell_eq_ok_none_iff_agrees null.1 null.2,
      or_iff_right fun both => actualNotNull both.1]
    exact ⟨fun agrees => ⟨actualNotNull, expectedNotNull, agrees⟩, fun agrees => agrees.2.2⟩

/-- A cell whose large object can be read matches if both values are null, or if neither is and
their comparable forms agree. If it does not match, there is one failure of the cell, which bears
its place. Within no divergence do two values of different types match, unless the actual one is
binary or a large object, or one of them is a date or a time. -/
theorem compareCell_decision (policy : Policy) (p : CellPosition)
    (readable : Readable actual expected) :
    (p.compareCell policy actual expected = .ok none ↔
      actual = .null ∧ expected = .null ∨
        actual ≠ .null ∧ expected ≠ .null ∧
          ∃ a e, normalize actual expected = .ok (a, e) ∧ a.Agrees policy e) ∧
    (p.compareCell policy actual expected ≠ .ok none →
      ∃ failure, p.compareCell policy actual expected = .ok (some failure) ∧ failure.IsAt p) ∧
    (¬SameType actual expected → actual.isBinary = false → actual.isLargeObject = false →
      actual.isDateTime = false → expected.isDateTime = false →
      p.compareCell policy actual expected ≠ .ok none) := by
  refine ⟨compareCell_eq_ok_none_iff, fun differ => ?_,
    fun unlike notBinary notKept notDate noDate matching => ?_⟩
  · obtain ⟨found, compared⟩ := (readable_iff policy p).mp readable
    cases found with
    | none => exact absurd compared differ
    | some failure => exact ⟨failure, compared, compareCell_isAt compared⟩
  · rcases compareCell_eq_ok_none_iff.mp matching with ⟨rfl, rfl⟩ | ⟨-, -, a, e, forms, agrees⟩
    · exact unlike .null
    · cases (normalize_of_plain notBinary notKept expected).symm.trans forms
      exact not_agrees_of_unlike unlike ⟨notDate, noDate⟩ agrees

/-- A binary object that reads as the expected Base64 matches it. A number that is written as the
expected text does not. -/
theorem compareCell_decision_blob :
    let policy := Policy.exact.withDivergence ⟨5, 1, by decide, by decide⟩
    let p : CellPosition := ⟨2, 3, 1, 2⟩
    let blob : Value := .largeObject .blob ⟨7, .ok [1, 2, 3]⟩
    let five : Value := .integer 5
    (blob.Readable (.text "AQID") ∧ p.compareCell policy blob (.text "AQID") = .ok none) ∧
      five.Readable (.text "5") ∧ five.toText = "5" ∧
      ∃ failure, p.compareCell policy five (.text "5") = .ok (some failure) ∧ failure.IsAt p := by
  intro policy p blob five
  have blobReadable : blob.Readable (.text "AQID") := fun _ _ => ⟨some "AQID", rfl⟩
  have agrees : (Value.text "AQID").Agrees policy (.text "AQID") := .equal nofun rfl
  have fiveReadable : five.Readable (.text "5") := readable_of_not_largeObject rfl _
  have types : ¬SameType (.integer 5) (.text "5") := nofun
  obtain ⟨-, failed, unlike⟩ := compareCell_decision policy p fiveReadable
  refine ⟨⟨blobReadable, (compareCell_decision policy p blobReadable).1.mpr ?_⟩, fiveReadable,
    rfl, failed (unlike types rfl rfl rfl rfl)⟩
  exact .inr ⟨nofun, nofun, .text "AQID", .text "AQID", rfl, agrees⟩

end CellPosition
end QueryRegression
