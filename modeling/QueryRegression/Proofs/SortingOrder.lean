import Mathlib.Data.List.Sort
import QueryRegression.Sorting.Short

/-!
# What a sort is to do

A sort is asked for two things, which every method of `QueryRegression.Sorting` is shown to do.

* Whatever the comparison is, a result has the elements of the list (`Sorts.perm`).
* If the comparison is an order (`IsOrder`) and the elements stand at ascending places, there is a
  result, and in it the elements come one `Before` the other: in the order of the comparison and,
  where that ties them, of their places (`Sorts.ascending`).

`Before` then leaves no ties, so that such a result is the only one.
-/

namespace QueryRegression.Sorting

variable {α : Type}

/-- The comparison is an order in which elements may be tied: it is not circular, and what does not
come before a second element, which does not come before a third, does not come before the third. -/
structure IsOrder (less : α → α → Bool) : Prop where
  asymm : ∀ {a b}, less a b = true → less b a = false
  trans : ∀ {a b c}, less b a = false → less c b = false → less c a = false

section Order

variable [LinearOrder α] {less : α → α → Bool} {a b c : α}

/-- Where two elements belong: by comparison and, where they are tied, by their places. -/
def Before (less : α → α → Bool) (a b : α) : Prop :=
  less b a = false ∧ (less a b = false → a ≤ b)

theorem before_of_lt (place : a < b) (notLess : less b a = false) : Before less a b :=
  ⟨notLess, fun _ => place.le⟩

theorem Before.antisymm (forth : Before less a b) (back : Before less b a) : a = b :=
  le_antisymm (forth.2 back.1) (back.2 forth.1)

variable (order : IsOrder less)
include order

theorem before_of_less (isLess : less a b = true) : Before less a b :=
  ⟨order.asymm isLess, fun notLess => absurd isLess (by rw [notLess]; exact Bool.false_ne_true)⟩

theorem Before.trans (first : Before less a b) (second : Before less b c) : Before less a c := by
  refine ⟨order.trans first.1 second.1, fun tied => ?_⟩
  -- A tie of the outer two makes both ties with the middle one.
  have left : less a b = false := order.trans second.1 tied
  have right : less b c = false := order.trans tied first.1
  exact (first.2 left).trans (second.2 right)

theorem before_or_before (a b : α) : Before less a b ∨ Before less b a := by
  cases forth : less a b with
  | true => exact .inl (before_of_less order forth)
  | false =>
      cases back : less b a with
      | true => exact .inr (before_of_less order back)
      | false => exact (le_total a b).imp (⟨back, fun _ => ·⟩) (⟨forth, fun _ => ·⟩)

end Order

/-- `sorted` is what a sort of `xs` is to give, or that it gives nothing. -/
structure Sorts [LinearOrder α] (less : α → α → Bool) (xs : List α) (sorted : Option (List α)) :
    Prop where
  perm : ∀ ys, sorted = some ys → ys.Perm xs
  ascending : IsOrder less → xs.Pairwise (· < ·) →
    ∃ ys, sorted = some ys ∧ ys.Pairwise (Before less)

/-- A list of at most one element is sorted. -/
theorem sorts_of_length_le_one [LinearOrder α] (less : α → α → Bool) {xs : List α}
    (short : xs.length ≤ 1) : Sorts less xs (some xs) where
  perm ys found := by
    cases found
    exact .refl xs
  ascending _ _ := by
    refine ⟨xs, rfl, ?_⟩
    match xs, short with
    | [], _ => exact .nil
    | [x], _ => exact List.pairwise_singleton _ x

/-! ## Merges -/

theorem mergeForward_perm (less : α → α → Bool) (left right : List α) :
    (mergeForward less left right).Perm (left ++ right) :=
  List.merge_perm_append _

theorem mergeBackward_perm (less : α → α → Bool) (left right : List α) :
    (mergeBackward less left right).Perm (left ++ right) := by
  unfold mergeBackward
  have merged : (right.reverse.merge left.reverse fun y x => !less y x).Perm
      (right.reverse ++ left.reverse) := List.merge_perm_append _
  rw [← List.reverse_append] at merged
  exact (List.reverse_perm _).trans (merged.trans (List.reverse_perm _))

theorem merge_congr {le le' : α → α → Bool} {xs ys : List α}
    (agree : ∀ a ∈ xs, ∀ b ∈ ys, le a b = le' a b) : xs.merge ys le = xs.merge ys le' := by
  simpa only [List.map_id] using List.map_merge (f := id) agree

section Merge

variable [LinearOrder α] {less : α → α → Bool} (order : IsOrder less) {left right : List α}
  (leftSorted : left.Pairwise (Before less)) (rightSorted : right.Pairwise (Before less))
  (apart : ∀ x ∈ left, ∀ y ∈ right, x < y)
include order leftSorted rightSorted apart

open Classical in
/-- Elements that stand left of others are asked for as if it were by `Before`. -/
theorem mergeForward_pairwise : (mergeForward less left right).Pairwise (Before less) := by
  have asBefore : mergeForward less left right =
      left.merge right fun x y => decide (Before less x y) := by
    refine merge_congr fun x inLeft y inRight => ?_
    rw [Bool.eq_iff_iff, Bool.not_eq_true', decide_eq_true_iff]
    exact ⟨before_of_lt (apart x inLeft y inRight), And.left⟩
  have sorted := @List.pairwise_merge α (fun x y => decide (Before less x y))
    (fun a b c => by simpa only [decide_eq_true_eq] using Before.trans order)
    (fun a b => by simpa only [Bool.or_eq_true, decide_eq_true_eq] using before_or_before order a b)
    left right
  simp only [decide_eq_true_eq] at sorted
  rw [asBefore]
  exact sorted leftSorted rightSorted

open Classical in
theorem mergeBackward_pairwise : (mergeBackward less left right).Pairwise (Before less) := by
  have asBefore : right.reverse.merge left.reverse (fun y x => !less y x) =
      right.reverse.merge left.reverse fun y x => decide (Before less x y) := by
    refine merge_congr fun y inRight x inLeft => ?_
    rw [Bool.eq_iff_iff, Bool.not_eq_true', decide_eq_true_iff]
    exact ⟨before_of_lt (apart x (List.mem_reverse.mp inLeft) y (List.mem_reverse.mp inRight)),
      And.left⟩
  have sorted := @List.pairwise_merge α (fun y x => decide (Before less x y))
    (fun a b c => by
      simpa only [decide_eq_true_eq] using fun first second => Before.trans order second first)
    (fun a b => by simpa only [Bool.or_eq_true, decide_eq_true_eq] using before_or_before order b a)
    right.reverse left.reverse
  simp only [decide_eq_true_eq] at sorted
  rw [mergeBackward, asBefore, List.pairwise_reverse]
  exact sorted (List.pairwise_reverse.mpr rightSorted) (List.pairwise_reverse.mpr leftSorted)

/-- It is all the same from which end two lists are merged. -/
theorem mergeBackward_eq_mergeForward :
    mergeBackward less left right = mergeForward less left right :=
  List.Perm.eq_of_pairwise (fun _ _ _ _ => Before.antisymm)
    (mergeBackward_pairwise order leftSorted rightSorted apart)
    (mergeForward_pairwise order leftSorted rightSorted apart)
    ((mergeBackward_perm less left right).trans (mergeForward_perm less left right).symm)

end Merge

end QueryRegression.Sorting
