import QueryRegression.Proofs.SortingOrder

/-!
# Sorting few elements

Insertion, and the sort of a short list by halves, do what a sort is to do.

* `insertAll_perm`, `insertAll_pairwise`: elements are inserted behind those that are sorted.
* `mergeFromEnds?_perm`, `mergeFromEnds?_of_order`: what the two ends of a merge and the middle
  hold, and that they meet if the comparison is an order.
* `sortShort?_sorts`: the sort of a short list.
-/

namespace QueryRegression.Sorting

variable {α : Type}

/-! ## Insertion -/

theorem insertDescending_perm (less : α → α → Bool) (x : α) (ys : List α) :
    (insertDescending less x ys).Perm (x :: ys) := by
  induction ys with
  | nil => exact .refl _
  | cons y ys ih =>
      unfold insertDescending
      split
      · exact (ih.cons y).trans (.swap x y ys)
      · exact .refl _

theorem insertAll_perm (less : α → α → Bool) (sorted xs : List α) :
    (insertAll less sorted xs).Perm (sorted ++ xs) := by
  have folded : ∀ descending : List α,
      (xs.foldl (fun descending x => insertDescending less x descending) descending).Perm
        (xs ++ descending) := by
    induction xs with
    | nil => exact fun descending => .refl _
    | cons x xs ih =>
        intro descending
        rw [List.foldl_cons, List.cons_append]
        have inserted := (insertDescending_perm less x descending).append_left xs
        exact (ih _).trans (inserted.trans List.perm_middle)
  have reversed := (List.reverse_perm sorted).append_left xs
  exact (List.reverse_perm _).trans ((folded sorted.reverse).trans
    (reversed.trans List.perm_append_comm))

section Insertion

variable [LinearOrder α] {less : α → α → Bool} (order : IsOrder less)
include order

theorem insertDescending_pairwise {x : α} {ys : List α}
    (descending : ys.Pairwise fun a b => Before less b a) (later : ∀ y ∈ ys, y < x) :
    (insertDescending less x ys).Pairwise fun a b => Before less b a := by
  induction descending with
  | nil => exact List.pairwise_singleton _ x
  | @cons y ys above rest ih =>
      unfold insertDescending
      split
      next isLess =>
        refine List.pairwise_cons.mpr
          ⟨fun z member => ?_, ih fun z old => later z (List.mem_cons_of_mem y old)⟩
        rcases List.mem_cons.mp ((insertDescending_perm less x ys).mem_iff.mp member) with rfl | old
        · exact before_of_less order isLess
        · exact above z old
      next notLess =>
        rw [Bool.not_eq_true] at notLess
        have top : Before less y x := before_of_lt (later y List.mem_cons_self) notLess
        refine List.pairwise_cons.mpr ⟨fun z member => ?_, List.pairwise_cons.mpr ⟨above, rest⟩⟩
        rcases List.mem_cons.mp member with rfl | old
        · exact top
        · exact (above z old).trans order top

theorem insertAll_pairwise {sorted xs : List α} (ascending : sorted.Pairwise (Before less))
    (places : xs.Pairwise (· < ·)) (apart : ∀ x ∈ sorted, ∀ y ∈ xs, x < y) :
    (insertAll less sorted xs).Pairwise (Before less) := by
  have folded : ∀ descending : List α, (descending.Pairwise fun a b => Before less b a) →
      (∀ x ∈ descending, ∀ y ∈ xs, x < y) →
      (xs.foldl (fun descending x => insertDescending less x descending) descending).Pairwise
        fun a b => Before less b a := by
    clear apart
    induction places with
    | nil => exact fun descending sorted _ => sorted
    | @cons x xs later _ ih =>
        intro descending sorted apart
        refine ih _ (insertDescending_pairwise order sorted fun y old =>
          apart y old x List.mem_cons_self) fun y member z rest => ?_
        rcases List.mem_cons.mp ((insertDescending_perm less x descending).mem_iff.mp member) with
          rfl | old
        · exact later z rest
        · exact apart y old z (List.mem_cons_of_mem x rest)
  refine List.pairwise_reverse.mpr (folded sorted.reverse (List.pairwise_reverse.mpr ascending) ?_)
  exact fun x member => apart x (List.mem_reverse.mp member)

end Insertion

/-! ## Four elements -/

theorem sortTwo_perm (less : α → α → Bool) (a b : α) :
    [(sortTwo less a b).1, (sortTwo less a b).2].Perm [a, b] := by
  unfold sortTwo
  split
  · exact .swap a b []
  · exact .refl _

theorem mergePairs_perm (less : α → α → Bool) (p q : α × α) :
    (mergePairs less p q).Perm ([p.1, p.2] ++ [q.1, q.2]) := by
  classical
  rw [List.perm_iff_count]
  intro z
  unfold mergePairs
  cases less q.1 p.1 <;> cases less q.2 p.2 <;> dsimp only <;> split <;>
    simp only [List.cons_append, List.nil_append, List.count_cons] <;> omega

theorem sortFour_perm (less : α → α → Bool) (a b c d : α) :
    (sortFour less a b c d).Perm [a, b, c, d] :=
  (mergePairs_perm less _ _).trans ((sortTwo_perm less a b).append (sortTwo_perm less c d))

section Four

variable [LinearOrder α] {less : α → α → Bool} (order : IsOrder less)
include order

theorem sortTwo_before {a b : α} (place : a < b) :
    Before less (sortTwo less a b).1 (sortTwo less a b).2 := by
  unfold sortTwo
  split
  next isLess => exact before_of_less order isLess
  next notLess => exact before_of_lt place (Bool.not_eq_true _ ▸ notLess)

/-- Four elements are sorted as soon as the outer ones are where they belong. -/
theorem pairwise_middle {first x y last : α} (xFirst : Before less first x)
    (yFirst : Before less first y) (xLast : Before less x last) (yLast : Before less y last)
    (middle : less y x = false → Before less x y) :
    (if less y x then [first, y, x, last] else [first, x, y, last]).Pairwise (Before less) := by
  have outer : Before less first last := xFirst.trans order xLast
  split
  next isLess =>
    simp only [List.pairwise_cons, List.forall_mem_cons, List.not_mem_nil, false_imp_iff,
      implies_true, List.Pairwise.nil, and_true]
    exact ⟨⟨yFirst, xFirst, outer⟩, ⟨before_of_less order isLess, yLast⟩, xLast⟩
  next notLess =>
    simp only [List.pairwise_cons, List.forall_mem_cons, List.not_mem_nil, false_imp_iff,
      implies_true, List.Pairwise.nil, and_true]
    exact ⟨⟨xFirst, yFirst, outer⟩, ⟨middle (Bool.not_eq_true _ ▸ notLess), xLast⟩, yLast⟩

theorem mergePairs_pairwise {p q : α × α} (left : Before less p.1 p.2)
    (right : Before less q.1 q.2) (apart : ∀ x ∈ [p.1, p.2], ∀ y ∈ [q.1, q.2], x < y) :
    (mergePairs less p q).Pairwise (Before less) := by
  simp only [List.forall_mem_cons, List.not_mem_nil, false_imp_iff, implies_true, and_true] at apart
  obtain ⟨⟨first, outer⟩, inner, last⟩ := apart
  unfold mergePairs
  cases low : less q.1 p.1 <;> cases high : less q.2 p.2 <;> dsimp only
  case false.false =>
    have lower := before_of_lt first low
    have upper := before_of_lt last high
    exact pairwise_middle order left lower upper right (before_of_lt inner)
  case false.true =>
    have lower := before_of_lt first low
    have upper := before_of_less order high
    exact pairwise_middle order lower (lower.trans order right) (right.trans order upper) upper
      fun _ => right
  case true.false =>
    have lower := before_of_less order low
    have upper := before_of_lt last high
    exact pairwise_middle order lower (lower.trans order left) (left.trans order upper) upper
      fun _ => left
  case true.true =>
    have lower := before_of_less order low
    have upper := before_of_less order high
    exact pairwise_middle order lower right left upper (before_of_lt outer)

theorem sortFour_pairwise {a b c d : α} (places : [a, b, c, d].Pairwise (· < ·)) :
    (sortFour less a b c d).Pairwise (Before less) := by
  obtain ⟨left, right, apart⟩ := List.pairwise_append.mp
    (show ([a, b] ++ [c, d]).Pairwise (· < ·) from places)
  apply mergePairs_pairwise order (sortTwo_before order (List.pairwise_pair.mp left))
    (sortTwo_before order (List.pairwise_pair.mp right))
  intro x member y member'
  exact apart x ((sortTwo_perm less a b).mem_iff.mp member) y
    ((sortTwo_perm less c d).mem_iff.mp member')

end Four

theorem presort_perm (less : α → α → Bool) (byFours : Bool) (xs : List α) :
    (presort less byFours xs).Perm xs := by
  unfold presort
  split
  · split
    · exact (insertAll_perm less _ _).trans ((sortFour_perm less ..).append_right _)
    · exact insertAll_perm less [] _
  · exact insertAll_perm less [] _

theorem presort_pairwise [LinearOrder α] {less : α → α → Bool} (order : IsOrder less)
    (byFours : Bool) {xs : List α} (places : xs.Pairwise (· < ·)) :
    (presort less byFours xs).Pairwise (Before less) := by
  have inserted : (insertAll less [] xs).Pairwise (Before less) :=
    insertAll_pairwise order .nil places nofun
  unfold presort
  split
  next a b c d rest =>
    split
    · obtain ⟨four, later, apart⟩ := List.pairwise_append.mp
        (show ([a, b, c, d] ++ rest).Pairwise (· < ·) from places)
      apply insertAll_pairwise order (sortFour_pairwise order four) later
      exact fun x member => apart x ((sortFour_perm less a b c d).mem_iff.mp member)
    · exact inserted
  · exact inserted

/-! ## Merging from both ends -/

/-- As long as neither list is used up, the front is that of the whole merge. -/
theorem mergeFront_fst (less : α → α → Bool) {count : Nat} {xs ys : List α}
    (left : count ≤ xs.length) (right : count ≤ ys.length) :
    (mergeFront less count xs ys).1 = (mergeForward less xs ys).take count := by
  induction count generalizing xs ys with
  | zero => rfl
  | succ count ih =>
      match xs, ys, left, right with
      | x :: xs, y :: ys, left, right =>
          have shorter := Nat.le_of_succ_le_succ left
          have shorter' := Nat.le_of_succ_le_succ right
          unfold mergeForward mergeFront
          rw [List.cons_merge_cons]
          cases less y x
          · exact congrArg (x :: ·) (ih shorter (Nat.le_of_succ_le right))
          · exact congrArg (y :: ·) (ih (Nat.le_of_succ_le left) shorter')

/-- The front holds the first elements of both lists, as many of the left one as it tells. -/
theorem mergeFront_perm (less : α → α → Bool) {count : Nat} {xs ys : List α}
    (left : count ≤ xs.length) (right : count ≤ ys.length) :
    (mergeFront less count xs ys).2 ≤ count ∧
      (mergeFront less count xs ys).1.Perm
        (xs.take (mergeFront less count xs ys).2 ++
          ys.take (count - (mergeFront less count xs ys).2)) := by
  induction count generalizing xs ys with
  | zero => exact ⟨Nat.le_refl 0, .refl _⟩
  | succ count ih =>
      match xs, ys, left, right with
      | x :: xs, y :: ys, left, right =>
          unfold mergeFront
          cases less y x
          · obtain ⟨bound, perm⟩ := ih (Nat.le_of_succ_le_succ left) (Nat.le_of_succ_le right)
            refine ⟨Nat.succ_le_succ bound, ?_⟩
            simpa only [Bool.false_eq_true, if_false, List.take_succ_cons, List.cons_append,
              Nat.add_sub_add_right] using perm.cons x
          · obtain ⟨bound, perm⟩ := ih (Nat.le_of_succ_le left) (Nat.le_of_succ_le_succ right)
            refine ⟨Nat.le_succ_of_le bound, ?_⟩
            simp only [if_true]
            rw [Nat.succ_sub bound, List.take_succ_cons]
            exact (perm.cons y).trans List.perm_middle.symm

section Ends

variable (less : α → α → Bool) {left right : List α} (balanced : left.length ≤ right.length)
include balanced

/-- What the end of a merge holds: the last elements of both lists. -/
theorem mergeBack_perm :
    (mergeFront (fun a b => less b a) left.length right.reverse left.reverse).2 ≤ left.length ∧
      (mergeFront (fun a b => less b a) left.length right.reverse left.reverse).1.reverse.Perm
        (left.drop (mergeFront (fun a b => less b a) left.length right.reverse left.reverse).2 ++
          right.drop (right.length -
            (mergeFront (fun a b => less b a) left.length right.reverse left.reverse).2)) := by
  have enough : left.length ≤ right.reverse.length := by rwa [List.length_reverse]
  obtain ⟨bound, perm⟩ := mergeFront_perm (fun a b => less b a) enough
    (Nat.le_of_eq List.length_reverse.symm)
  refine ⟨bound, (List.reverse_perm _).trans (perm.trans ?_)⟩
  rw [List.take_reverse, List.take_reverse, Nat.sub_sub_self bound, ← List.reverse_append]
  exact List.reverse_perm _

end Ends

theorem take_append_drop_take {xs : List α} {i j : Nat} (cut : i ≤ j) :
    xs.take i ++ (xs.take j).drop i = xs.take j := by
  rw [← Nat.min_eq_left cut, ← List.take_take, Nat.min_eq_left cut]
  exact List.take_append_drop i (xs.take j)

/-- Two lists that are each cut at two places are put together again, part by part. -/
theorem perm_of_cuts {xs ys front back : List α} {i j k l : Nat} (cut : i ≤ j) (cut' : k ≤ l)
    (frontPerm : front.Perm (xs.take i ++ ys.take k))
    (backPerm : back.Perm (xs.drop j ++ ys.drop l)) :
    (front ++ ((xs.take j).drop i ++ (ys.take l).drop k) ++ back).Perm (xs ++ ys) := by
  classical
  rw [List.perm_iff_count]
  intro z
  have fronts := frontPerm.count_eq z
  have backs := backPerm.count_eq z
  have left := congrArg (List.count z) (List.take_append_drop j xs)
  have right := congrArg (List.count z) (List.take_append_drop l ys)
  rw [← take_append_drop_take cut] at left
  rw [← take_append_drop_take cut'] at right
  simp only [List.count_append] at fronts backs left right ⊢
  omega

/-- If the ends meet, what they hold and what is left in the middle are all the elements. -/
theorem mergeFromEnds?_perm (less : α → α → Bool) {left right merged : List α}
    (balanced : left.length ≤ right.length) (met : mergeFromEnds? less left right = some merged) :
    merged.Perm (left ++ right) := by
  obtain ⟨fromLeft, frontPerm⟩ := mergeFront_perm less (Nat.le_refl left.length) balanced
  obtain ⟨fromRight, backPerm⟩ := mergeBack_perm less balanced
  unfold mergeFromEnds? at met
  dsimp only at met
  split at met
  next meet =>
    cases met
    exact perm_of_cuts meet.1 (by omega) frontPerm backPerm
  next => cases met

theorem eq_of_perm_of_length_le_one {xs ys : List α} (perm : xs.Perm ys) (few : ys.length ≤ 1) :
    xs = ys := by
  match ys, few with
  | [], _ => exact perm.eq_nil
  | [y], _ => exact List.perm_singleton.mp perm

section Meeting

variable [LinearOrder α] {less : α → α → Bool} (order : IsOrder less) {left right : List α}
  (apart : ∀ x ∈ left, ∀ y ∈ right, x < y)

omit order in
include apart in
theorem countP_mem_left {xs ys : List α} (lefts : ∀ z ∈ xs, z ∈ left)
    (rights : ∀ z ∈ ys, z ∈ right) : (xs ++ ys).countP (· ∈ left) = xs.length := by
  have all : xs.countP (· ∈ left) = xs.length :=
    List.countP_eq_length.mpr fun z member => decide_eq_true (lefts z member)
  have none : ys.countP (· ∈ left) = 0 := by
    refine List.countP_eq_zero.mpr fun z member inLeft => ?_
    exact lt_irrefl z (apart z (of_decide_eq_true inLeft) z (rights z member))
  rw [List.countP_append, all, none, Nat.add_zero]

variable (leftSorted : left.Pairwise (Before less)) (rightSorted : right.Pairwise (Before less))
  (balanced : left.length ≤ right.length)
include order apart leftSorted rightSorted balanced

/-- From the end one sees the last elements of the same merge. -/
theorem mergeBack_fst :
    (mergeFront (fun a b => less b a) left.length right.reverse left.reverse).1.reverse =
      (mergeForward less left right).drop right.length := by
  have sameEnd := mergeBackward_eq_mergeForward order leftSorted rightSorted apart
  rw [mergeFront_fst _ (by rwa [List.length_reverse]) (Nat.le_of_eq List.length_reverse.symm),
    List.reverse_take, ← sameEnd, mergeForward, List.length_merge, List.length_reverse,
    List.length_reverse, Nat.add_sub_cancel]
  rfl

/-- The ends of a merge meet if the comparison is an order, and give the whole merge. -/
theorem mergeFromEnds?_of_order (spare : right.length ≤ left.length + 1) :
    mergeFromEnds? less left right = some (mergeForward less left right) := by
  obtain ⟨fromLeft, frontPerm⟩ := mergeFront_perm less (Nat.le_refl left.length) balanced
  obtain ⟨fromRight, backPerm⟩ := mergeBack_perm less balanced
  have frontEq := mergeFront_fst less (Nat.le_refl left.length) balanced
  have backEq := mergeBack_fst order apart leftSorted rightSorted balanced
  have perm := mergeForward_perm less left right
  generalize mergeForward less left right = merged at frontEq backEq perm ⊢
  -- Count the left elements before, in and behind the middle of the merge.
  let middle := (merged.take right.length).drop left.length
  have parts : merged.take left.length ++ middle ++ merged.drop right.length = merged := by
    rw [take_append_drop_take balanced, List.take_append_drop]
  have total := perm.countP_eq (· ∈ left)
  rw [countP_mem_left apart (fun _ => id) fun _ => id, ← parts, List.countP_append,
    List.countP_append] at total
  have inFront := frontPerm.countP_eq (· ∈ left)
  rw [countP_mem_left apart (fun _ => List.mem_of_mem_take) fun _ => List.mem_of_mem_take,
    List.length_take, frontEq] at inFront
  have inBack := backPerm.countP_eq (· ∈ left)
  rw [countP_mem_left apart (fun _ => List.mem_of_mem_drop) fun _ => List.mem_of_mem_drop,
    List.length_drop, backEq] at inBack
  have middleLength : middle.length = right.length - left.length := by
    rw [List.length_drop, List.length_take, perm.length_eq, List.length_append]
    omega
  have inMiddle : middle.countP (· ∈ left) ≤ middle.length := List.countP_le_length
  have meet : (mergeFront less left.length left right).2 ≤
      (mergeFront (fun a b => less b a) left.length right.reverse left.reverse).2 ∧
      (mergeFront (fun a b => less b a) left.length right.reverse left.reverse).2 ≤
        (mergeFront less left.length left right).2 + (right.length - left.length) := by
    omega
  have met : mergeFromEnds? less left right = some _ := if_pos meet
  have sameElements := (mergeFromEnds?_perm less balanced met).trans perm.symm
  rw [← parts, frontEq, backEq] at sameElements
  have middles := (List.perm_append_left_iff _).mp ((List.perm_append_right_iff _).mp sameElements)
  rw [met, frontEq, backEq, eq_of_perm_of_length_le_one middles (by omega), parts]

end Meeting

/-- Two halves of a list are sorted by insertion and merged. -/
theorem mergeFromEnds?_sorts [LinearOrder α] (less : α → α → Bool) (byFours : Bool)
    (front back : List α) (balanced : front.length ≤ back.length)
    (spare : back.length ≤ front.length + 1) :
    Sorts less (front ++ back)
      (mergeFromEnds? less (presort less byFours front) (presort less byFours back)) := by
  have left := presort_perm less byFours front
  have right := presort_perm less byFours back
  rw [← left.length_eq, ← right.length_eq] at balanced spare
  constructor
  case perm =>
    exact fun ys met => (mergeFromEnds?_perm less balanced met).trans (left.append right)
  case ascending =>
    intro order places
    obtain ⟨frontPlaces, backPlaces, across⟩ := List.pairwise_append.mp places
    have leftSorted := presort_pairwise order byFours frontPlaces
    have rightSorted := presort_pairwise order byFours backPlaces
    have apart : ∀ x ∈ presort less byFours front, ∀ y ∈ presort less byFours back, x < y :=
      fun x inLeft y inRight => across x (left.mem_iff.mp inLeft) y (right.mem_iff.mp inRight)
    exact ⟨_, mergeFromEnds?_of_order order apart leftSorted rightSorted balanced spare,
      mergeForward_pairwise order leftSorted rightSorted apart⟩

/-- A short list is sorted. -/
theorem sortShort?_sorts [LinearOrder α] (less : α → α → Bool) (xs : List α) :
    Sorts less xs (sortShort? less xs) := by
  unfold sortShort?
  split
  next few => exact sorts_of_length_le_one less (Nat.le_of_lt_succ few)
  next =>
    have halves := mergeFromEnds?_sorts less (decide (foursLength ≤ xs.length))
      (xs.take (xs.length / 2)) (xs.drop (xs.length / 2))
      (by rw [List.length_take, List.length_drop]; omega)
      (by rw [List.length_take, List.length_drop]; omega)
    rwa [List.take_append_drop] at halves

end QueryRegression.Sorting
