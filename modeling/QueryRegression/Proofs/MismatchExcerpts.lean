import QueryRegression.Proofs.CellMatch
import Mathlib.Data.List.Infix

/-!
# What is shown of two texts that differ

Two texts that differ are taken apart into their longest common beginning and what follows it in
each of them. Excerpts show the end of the common part and the beginning of the rest, so that the
first difference stands in both.

* `TextMismatch.exists_common`: the texts taken apart, with the index between the parts.
* `TextMismatch.excerpt_common`: an excerpt in terms of the parts.
* `TextMismatch.find?_locates`: a difference is found if and only if there is one. It is found at
  the end of the longest common beginning, within both texts, and the two excerpts are of bounded
  length and differ.
-/

namespace QueryRegression.TextMismatch

/-! ## The common beginning -/

/-- The longest common beginning of two texts. -/
structure IsLongestCommon (common expected actual : List Char) : Prop where
  begins_expected : common <+: expected
  begins_actual : common <+: actual
  longest : ∀ other, other <+: expected → other <+: actual → other <+: common

/-- Two texts that have no first character in common. -/
inductive Apart : List Char → List Char → Prop
  | ended (actual : List Char) : Apart [] actual
  | ending (expected : List Char) : Apart expected []
  | differing {e a : Char} (differ : e ≠ a) (expected actual : List Char) :
    Apart (e :: expected) (a :: actual)

/-- Two texts taken apart behind what they have in common. -/
theorem exists_common (expected actual : List Char) :
    ∃ common e a, expected = common ++ e ∧ actual = common ++ a ∧
      common.length = commonLength expected actual ∧ Apart e a := by
  fun_induction commonLength expected actual with
  | case1 expected x actual ih =>
      obtain ⟨common, e, a, expectedParts, actualParts, length, apart⟩ := ih
      refine ⟨x :: common, e, a, ?_, ?_, ?_, apart⟩
      · rw [expectedParts, List.cons_append]
      · rw [actualParts, List.cons_append]
      · rw [List.length_cons, length]
  | case2 x expected y actual differ =>
      exact ⟨[], _, _, rfl, rfl, rfl, .differing differ expected actual⟩
  | case3 expected actual ended =>
      refine ⟨[], expected, actual, rfl, rfl, rfl, ?_⟩
      cases expected with
      | nil => exact .ended actual
      | cons x expected =>
          cases actual with
          | nil => exact .ending _
          | cons y actual => exact (ended x expected y actual rfl rfl).elim

theorem Apart.eq_nil {e a other : List Char} (apart : Apart e a) (left : other <+: e)
    (right : other <+: a) : other = [] := by
  cases apart with
  | ended a => exact List.prefix_nil.mp left
  | ending e => exact List.prefix_nil.mp right
  | differing differ e a =>
      cases other with
      | nil => rfl
      | cons c other =>
          rw [List.cons_prefix_cons] at left right
          exact absurd (left.1.symm.trans right.1) differ

/-- What precedes the parts without a common first character is the longest common beginning. -/
theorem isLongestCommon_append (common : List Char) {e a : List Char} (apart : Apart e a) :
    IsLongestCommon common (common ++ e) (common ++ a) := by
  refine ⟨List.prefix_append _ _, List.prefix_append _ _, fun other left right => ?_⟩
  rcases Nat.le_total other.length common.length with short | long
  · exact List.prefix_of_prefix_length_le left (List.prefix_append _ _) short
  · obtain ⟨more, rfl⟩ := List.prefix_of_prefix_length_le (List.prefix_append _ e) left long
    rw [List.prefix_append_right_inj] at left right
    rw [apart.eq_nil left right, List.append_nil]

/-! ## Excerpts -/

/-- What an excerpt shows behind the common part. -/
def restShown (rest : List Char) : List Char :=
  rest.take margin ++ (if rest.length ≤ margin then "'" else "'...").toList

/-- What an excerpt shows of the common part. -/
def commonShown (common : List Char) : List Char :=
  (if common.length ≤ margin then "'" else "...'").toList ++ common.drop (common.length - margin)

/-- An excerpt around the end of the common part. What it shows of this is the same for both
texts. -/
theorem excerpt_common (common rest : List Char) :
    (excerpt common.length (common ++ rest)).toList = commonShown common ++ restShown rest := by
  have stop : min (common.length + margin) (common ++ rest).length - common.length =
      min margin rest.length := by
    rw [List.length_append]
    omega
  have whole : min (common.length + margin) (common ++ rest).length = (common ++ rest).length ↔
      rest.length ≤ margin := by
    rw [List.length_append]
    omega
  have reached : common.length ≤ min (common.length + margin) (common ++ rest).length := by
    rw [List.length_append]
    omega
  have slice : ((common ++ rest).take (min (common.length + margin) (common ++ rest).length)).drop
      (common.length - margin) = common.drop (common.length - margin) ++ rest.take margin := by
    rw [List.take_append, stop, List.take_of_length_le reached,
      List.drop_append_of_le_length (Nat.sub_le _ _), ← List.take_eq_take_min]
  simp only [excerpt, String.toList_append, String.toList_ofList, slice, whole, commonShown,
    restShown, List.append_assoc]

/-- What follows the common part is not shown alike. Either two characters differ, or one text ends
where the other one goes on. -/
theorem Apart.restShown_ne {e a : List Char} (apart : Apart e a) (differ : e ≠ a) :
    restShown e ≠ restShown a := by
  have longer : ∀ (x : Char) (rest : List Char),
      (restShown []).length < (restShown (x :: rest)).length := by
    intro x rest
    have single : (restShown []).length = 1 := rfl
    have quote : 1 ≤ (if (x :: rest).length ≤ margin then "'" else "'...").toList.length := by
      split <;> decide
    rw [single, restShown, List.length_append, margin, List.take_succ_cons, List.length_cons]
    rw [margin] at quote
    omega
  intro same
  cases apart with
  | ended a =>
      cases a with
      | nil => exact differ rfl
      | cons x a => exact Nat.ne_of_lt (longer x a) (congrArg List.length same)
  | ending e =>
      cases e with
      | nil => exact differ rfl
      | cons x e => exact Nat.ne_of_gt (longer x e) (congrArg List.length same)
  | differing unequal e a => exact unequal (List.cons.inj same).1

/-- The characters of a text that an excerpt around the index quotes. -/
def window (index : Nat) (text : List Char) : List Char :=
  text.extract (index - 20) (min text.length (index + 20))

/-- The excerpt of a text around an index: the window in quotes, with points on the sides that were
cut. The window lies within the text and has at most 40 characters. -/
structure IsExcerpt (index : Nat) (text : List Char) (shown : String) : Prop where
  start_le : index - 20 ≤ min text.length (index + 20)
  stop_le : min text.length (index + 20) ≤ text.length
  length_le : (window index text).length ≤ 40
  quoted : shown = (if 20 < index then "..." else "") ++ "'" ++ .ofList (window index text) ++
    "'" ++ (if index + 20 < text.length then "..." else "")

theorem isExcerpt_excerpt {index : Nat} {text : List Char} (within : index ≤ text.length) :
    IsExcerpt index text (excerpt index text) := by
  have opening : (if index ≤ margin then "'" else "...'") =
      (if 20 < index then "..." else "") ++ "'" := by
    rw [margin]
    rcases Nat.lt_or_ge 20 index with cut | whole
    · rw [if_neg (Nat.not_le.mpr cut), if_pos cut]
      rfl
    · rw [if_pos whole, if_neg (Nat.not_lt.mpr whole)]
      rfl
  have closing : (if min (index + margin) text.length = text.length then "'" else "'...") =
      "'" ++ (if index + 20 < text.length then "..." else "") := by
    rw [margin]
    rcases Nat.lt_or_ge (index + 20) text.length with cut | whole
    · have shorter : min (index + 20) text.length ≠ text.length := by omega
      rw [if_neg shorter, if_pos cut]
      rfl
    · rw [if_pos (Nat.min_eq_right whole), if_neg (Nat.not_lt.mpr whole)]
      rfl
  have slice : (text.take (min (index + margin) text.length)).drop (index - margin) =
      window index text := by
    rw [window, List.extract_eq_take_drop, List.drop_take, Nat.min_comm]
    rfl
  refine ⟨by omega, Nat.min_le_left _ _, ?_, ?_⟩
  · rw [window, List.extract_eq_take_drop, List.length_take]
    omega
  · simp only [excerpt, opening, closing, slice, String.append_assoc]

/-! ## Located differences -/

/-- What the report of two texts that differ says of them. -/
structure Locates (m : TextMismatch) (expected actual : String) : Prop where
  /-- The index is the length of the longest common beginning. -/
  index : ∃ common, IsLongestCommon common expected.toList actual.toList ∧ m.index = common.length
  /-- There both texts have a character, and not the same, or one of them ends. -/
  difference :
    (∃ e a, expected.toList[m.index]? = some e ∧ actual.toList[m.index]? = some a ∧ e ≠ a ∧
      m.difference = .character e a) ∨
    (m.index = min expected.length actual.length ∧ expected.length ≠ actual.length ∧
      m.difference = .length expected.length actual.length)
  /-- Short texts are shown whole. -/
  whole : expected.length + actual.length ≤ 50 →
    m.expectedExcerpt = expected ∧ m.actualExcerpt = actual
  /-- Of longer ones an excerpt is shown. -/
  cut : 50 < expected.length + actual.length →
    IsExcerpt m.index expected.toList m.expectedExcerpt ∧
      IsExcerpt m.index actual.toList m.actualExcerpt
  /-- What is shown of the two texts differs. -/
  distinct : m.expectedExcerpt ≠ m.actualExcerpt

/-- The kind of difference, from the parts behind the common beginning. -/
theorem difference?_append (common : List Char) {e a : List Char} (apart : Apart e a)
    (differ : e ≠ a) :
    (∃ x y, (common ++ e)[common.length]? = some x ∧ (common ++ a)[common.length]? = some y ∧
      x ≠ y ∧ difference? common.length (common ++ e) (common ++ a) = .character x y) ∨
    (common.length = min (common ++ e).length (common ++ a).length ∧
      (common ++ e).length ≠ (common ++ a).length ∧
      difference? common.length (common ++ e) (common ++ a) =
        .length (common ++ e).length (common ++ a).length) := by
  have next : ∀ rest : List Char, (common ++ rest)[common.length]? = rest.head? := by
    intro rest
    rw [List.getElem?_append_right (Nat.le_refl _), Nat.sub_self, List.head?_eq_getElem?]
  cases apart with
  | ended a =>
      cases a with
      | nil => exact absurd rfl differ
      | cons x a =>
          right
          rw [difference?, next, next]
          simp
  | ending e =>
      cases e with
      | nil => exact absurd rfl differ
      | cons x e =>
          right
          rw [difference?, next, next]
          simp
  | differing unequal e a =>
      left
      rw [difference?, next, next]
      exact ⟨_, _, rfl, rfl, unequal, rfl⟩

/-- Excerpts around the end of the longest common beginning differ. -/
theorem excerpt_ne (common : List Char) {e a : List Char} (apart : Apart e a) (differ : e ≠ a) :
    excerpt common.length (common ++ e) ≠ excerpt common.length (common ++ a) := by
  intro same
  have characters := congrArg String.toList same
  rw [excerpt_common, excerpt_common] at characters
  exact apart.restShown_ne differ (List.append_cancel_left characters)

/-- What is found of two texts that are not equal. -/
theorem find?_of_ne {expected actual : String} (unequal : expected ≠ actual) :
    let index := commonLength expected.toList actual.toList
    let isLong := 50 < expected.length + actual.length
    find? expected actual = some
      { index
        difference := difference? index expected.toList actual.toList
        expectedExcerpt := if isLong then excerpt index expected.toList else expected
        actualExcerpt := if isLong then excerpt index actual.toList else actual } := by
  intro index isLong
  simp only [find?, if_neg unequal, String.length_toList, wholeLength, isLong]
  split <;> rfl

/-- Two texts have no difference if and only if they are equal. Any difference that is found is the
first one, lies within both texts, and is shown by two different excerpts of bounded length. -/
theorem find?_locates (expected actual : String) :
    (find? expected actual = none ↔ expected = actual) ∧
      ∀ m, find? expected actual = some m → m.Locates expected actual := by
  refine ⟨find?_eq_none_iff, fun m found => ?_⟩
  have unequal : expected ≠ actual := by
    intro equal
    rw [find?_eq_none_iff.mpr equal] at found
    cases found
  obtain ⟨common, e, a, expectedParts, actualParts, length, apart⟩ :=
    exists_common expected.toList actual.toList
  have differ : e ≠ a := by
    intro same
    apply unequal
    apply String.toList_inj.mp
    rw [expectedParts, actualParts, same]
  have kinds := difference?_append common apart differ
  have shownApart := excerpt_ne common apart differ
  have longest := isLongestCommon_append common apart
  rw [← expectedParts, ← actualParts] at longest
  rw [← expectedParts, ← actualParts, length] at kinds shownApart
  rw [find?_of_ne unequal] at found
  cases found
  refine ⟨⟨common, longest, length.symm⟩, ?_, fun short => ?_, fun long => ?_, ?_⟩
  · simpa only [String.length_toList] using kinds
  · rw [if_neg (Nat.not_lt.mpr short), if_neg (Nat.not_lt.mpr short)]
    exact ⟨rfl, rfl⟩
  · rw [if_pos long, if_pos long, ← length]
    exact ⟨isExcerpt_excerpt longest.begins_expected.length_le,
      isExcerpt_excerpt longest.begins_actual.length_le⟩
  · split
    · exact shownApart
    · exact unequal

/-- One text is the beginning of the other, which goes on with a quote. The quote that ends the
first excerpt stands in the text of the second one. -/
theorem find?_locates_quote :
    let expected := "aaaaaaaaaaaaaaaaaaaaaaaaaaaaaa"
    let actual := "aaaaaaaaaaaaaaaaaaaaaaaaaaaaaa'b"
    let m : TextMismatch :=
      ⟨30, .length 30 32, "...'aaaaaaaaaaaaaaaaaaaa'", "...'aaaaaaaaaaaaaaaaaaaa'b'"⟩
    find? expected actual = some m ∧ m.Locates expected actual := by
  intro expected actual m
  have found : find? expected actual = some m := by decide +kernel
  exact ⟨found, (find?_locates expected actual).2 m found⟩

end QueryRegression.TextMismatch
