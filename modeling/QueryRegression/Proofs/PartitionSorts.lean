import QueryRegression.Proofs.RunSorts
import QueryRegression.Sorting.Stable

/-!
# Sorting by partition

A partition around a pivot, both sides of which are sorted, is sorted (`IsSortOf.append`). Which
element is the pivot does not matter for that.

* `quicksort?_sorts`: sorting by partition, with the elements tied with the pivot set aside where
  nothing is below it.
* `sortLazily?_sorts`: sorting runs when they are joined.
* `sort?_sorts`: the sort of a list of any length.
-/

namespace QueryRegression.Sorting

variable {α : Type} [LinearOrder α] {less : α → α → Bool}

/-! ## Partitions -/

/-- Both sides of a partition are sorted on their own. -/
theorem IsSortOf.append (goesFirst : α → Bool) {xs front back : List α}
    (frontSort : IsSortOf less front (xs.filter goesFirst))
    (backSort : IsSortOf less back (xs.filter fun x => !goesFirst x))
    (across : IsOrder less → ∀ x ∈ xs, ∀ y ∈ xs, goesFirst x = true → goesFirst y = false →
      less x y = true) :
    IsSortOf less (front ++ back) xs where
  perm := (frontSort.perm.append backSort.perm).trans (List.filter_append_perm goesFirst xs)
  ascending order places := by
    refine List.pairwise_append.mpr ⟨frontSort.ascending order (places.filter _),
      backSort.ascending order (places.filter _), fun x inFront y inBack => ?_⟩
    obtain ⟨inList, first⟩ := List.mem_filter.mp (frontSort.perm.mem_iff.mp inFront)
    obtain ⟨inList', second⟩ := List.mem_filter.mp (backSort.perm.mem_iff.mp inBack)
    rw [Bool.not_eq_true'] at second
    exact before_of_less order (across order x inList y inList' first second)

/-- Elements none of which comes before another are sorted as they are. -/
theorem isSortOf_of_tied {xs : List α}
    (tied : IsOrder less → ∀ x ∈ xs, ∀ y ∈ xs, less y x = false) : IsSortOf less xs xs where
  perm := .refl xs
  ascending order places := places.imp_of_mem fun inList inList' place =>
    before_of_lt place (tied order _ inList _ inList')

omit [LinearOrder α] in
/-- What does not come before a floor of the list, or has nothing of the list before it, has no
element of the list before it. -/
theorem notBefore_of_lopsided (order : IsOrder less) {pivot : α} {floor : Option α} {xs : List α}
    (above : ∀ f ∈ floor, ∀ x ∈ xs, less x f = false)
    (lopsided : ((xs.filter fun y => less y pivot).isEmpty ||
      floor.any fun f => !less f pivot) = true) :
    ∀ x ∈ xs, less x pivot = false := by
  intro x inList
  rcases Bool.or_eq_true_iff.mp lopsided with empty | onFloor
  · rw [List.isEmpty_iff, List.filter_eq_nil_iff] at empty
    exact Bool.not_eq_true _ ▸ empty x inList
  · cases floor with
    | none => cases onFloor
    | some f =>
        rw [Option.any_some, Bool.not_eq_true'] at onFloor
        exact order.trans onFloor (above f rfl x inList)

/-- Nothing is below the pivot: what is tied with it is set aside, and the rest is sorted. -/
theorem quicksort?_lopsided {pivot : α} {xs : List α} {high? : Option (List α)}
    (atLeast : IsOrder less → ∀ x ∈ xs, less x pivot = false)
    (highSorts : Sorts less (xs.filter fun y => less pivot y) high?) :
    Sorts less xs (high?.bind fun high => some ((xs.filter fun y => !less pivot y) ++ high)) := by
  apply Makes.sorts
  refine highSorts.makes.bind List.filter_sublist fun high highSort => makes_some ?_
  refine IsSortOf.append (fun y => !less pivot y) (isSortOf_of_tied ?_) ?_ ?_
  · intro order x inList y inList'
    obtain ⟨-, notAbove⟩ := List.mem_filter.mp inList
    obtain ⟨inXs, -⟩ := List.mem_filter.mp inList'
    exact order.trans (Bool.not_eq_true' _ ▸ notAbove) (atLeast order y inXs)
  · simpa only [Bool.not_not] using highSort
  · intro order x _ y _ notAbove isAbove
    rw [Bool.not_eq_true'] at notAbove
    rw [Bool.not_eq_false'] at isAbove
    rw [← Bool.not_eq_false]
    intro notBefore
    rw [order.trans notBefore notAbove] at isAbove
    cases isAbove

/-- What is below the pivot and what is not are sorted on their own. -/
theorem quicksort?_balanced {pivot : α} {xs : List α} {low? high? : Option (List α)}
    (lowSorts : Sorts less (xs.filter fun y => less y pivot) low?)
    (highSorts : Sorts less (xs.filter fun y => !less y pivot) high?) :
    Sorts less xs (high?.bind fun high => low?.bind fun low => some (low ++ high)) := by
  apply Makes.sorts
  refine highSorts.makes.bind List.filter_sublist fun high highSort => ?_
  refine lowSorts.makes.bind List.filter_sublist fun low lowSort => makes_some ?_
  refine IsSortOf.append (fun y => less y pivot) lowSort highSort ?_
  intro order x _ y _ isBelow notBelow
  rw [← Bool.not_eq_false]
  intro notBefore
  rw [order.trans notBelow notBefore] at isBelow
  cases isBelow

/-- Sorting by partition sorts the list. -/
theorem quicksort?_sorts (less : α → α → Bool) (limit : Nat) (floor : Option α) (xs : List α)
    (above : ∀ f ∈ floor, ∀ x ∈ xs, less x f = false) :
    Sorts less xs (quicksort? less limit floor xs) := by
  induction limit generalizing floor xs with
  | zero =>
      cases xs with
      | nil => exact sorts_of_length_le_one less (Nat.zero_le 1)
      | cons x xs =>
          rw [quicksort?]
          split
          · exact sortShort?_sorts less (x :: xs)
          · exact sortEagerly?_sorts less (x :: xs)
  | succ limit ih =>
      cases xs with
      | nil => exact sorts_of_length_le_one less (Nat.zero_le 1)
      | cons x xs =>
          rw [quicksort?]
          generalize pivot less x xs = pivot
          generalize x :: xs = xs at above ⊢
          split
          · exact sortShort?_sorts less xs
          dsimp only
          split
          next lopsided =>
            exact quicksort?_lopsided
              (fun order => notBefore_of_lopsided order above lopsided) (ih none _ nofun)
          next =>
            refine quicksort?_balanced (ih floor _ ?_) (ih (some pivot) _ ?_)
            · exact fun f isFloor y inLow => above f isFloor y (List.mem_of_mem_filter inLow)
            · rintro _ ⟨⟩ y inHigh
              exact Bool.not_eq_true' _ ▸ (List.mem_filter.mp inHigh).2

theorem partitionSort?_sorts (less : α → α → Bool) (xs : List α) :
    Sorts less xs (partitionSort? less xs) :=
  quicksort?_sorts less _ none xs nofun

/-! ## Runs that are sorted late -/

/-- A run in order is the sort of its stretch; any other is the stretch itself. -/
def Run.StandsFor (less : α → α → Bool) (run : Run α) (stretch : List α) : Prop :=
  if run.inOrder then IsSortOf less run.elements stretch else run.elements = stretch

theorem Run.standsFor_sorted {ys stretch : List α} (isSort : IsSortOf less ys stretch) :
    Run.StandsFor less ⟨ys, true⟩ stretch := isSort

theorem Run.standsFor_unsorted (less : α → α → Bool) (stretch : List α) :
    Run.StandsFor less ⟨stretch, false⟩ stretch := rfl

theorem Run.sort?_makes {run : Run α} {stretch : List α} (stands : run.StandsFor less stretch) :
    Makes less (IsSortOf less) stretch (run.sort? less) := by
  unfold Run.StandsFor at stands
  unfold Run.sort?
  split at stands
  next inOrder =>
    rw [if_pos inOrder]
    exact makes_some stands
  next unsorted =>
    rw [if_neg unsorted, stands]
    exact (partitionSort?_sorts less stretch).makes

theorem Run.join?_makes (room : Nat) {left right : Run α} {xs ys : List α}
    (leftStands : left.StandsFor less xs) (rightStands : right.StandsFor less ys) :
    Makes less (Run.StandsFor less) (xs ++ ys) (Run.join? less room left right) := by
  unfold Run.join?
  split
  · refine (left.sort?_makes leftStands).bind (List.sublist_append_left ..) fun _ leftSort => ?_
    refine (right.sort?_makes rightStands).bind (List.sublist_append_right ..)
      fun _ rightSort => ?_
    exact makes_some (leftSort.merge rightSort)
  next unsorted =>
    simp only [Bool.or_eq_true, not_or] at unsorted
    obtain ⟨⟨-, leftUnsorted⟩, rightUnsorted⟩ := unsorted
    rw [Run.StandsFor, if_neg leftUnsorted] at leftStands
    rw [Run.StandsFor, if_neg rightUnsorted] at rightStands
    exact makes_some (congrArg₂ (· ++ ·) leftStands rightStands)

/-- Sorting runs when they are joined sorts the list. -/
theorem sortLazily?_sorts (less : α → α → Bool) (room : Nat) (xs : List α) :
    Sorts less xs (sortLazily? less room xs) := by
  apply Makes.sorts
  have split : Makes less (InRow (Run.StandsFor less)) xs _ :=
    splitRuns?_makes (minRunLength xs.length) (minRunLength xs.length) Run.standsFor_sorted
      (fun stretch => makes_some (Run.standsFor_unsorted less stretch)) xs
  refine split.bind (.refl xs) fun runs inRow => ?_
  cases inRow with
  | nil => exact makes_some ⟨.refl [], fun _ _ => .nil⟩
  | cons first others =>
      refine (joinRuns?_makes (Run.join?_makes room) _ _ 0 .nil first others).bind (.refl _) ?_
      exact fun run stands => run.sort?_makes stands

/-- The sort of a list of any length gives its elements, in order if the comparison is one. -/
theorem sort?_sorts (less : α → α → Bool) (xs : List α) : Sorts less xs (sort? less xs) := by
  unfold sort?
  split
  · constructor
    case perm =>
      rintro _ ⟨⟩
      exact insertAll_perm less [] xs
    case ascending =>
      exact fun order places => ⟨_, rfl, insertAll_pairwise order .nil places nofun⟩
  · split
    · exact sortEagerly?_sorts less xs
    · exact sortLazily?_sorts less _ xs

end QueryRegression.Sorting
