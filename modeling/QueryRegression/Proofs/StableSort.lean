import QueryRegression.Proofs.PartitionSorts

/-!
# Stable sorting

What `stableSort?` promises of any list, whichever method is taken for its length.

* `stableSort?_perm`: if it ends, the result is a permutation of the list, for every comparison.
* `stableSort?_map`: sorting by a key commutes with taking the key.
* `zip_stableSort?`: two lists whose elements compare alike are sorted by one permutation.
* `stableSort?_of_consistent`: if the comparison is a consistent order of the elements, it ends,
  and the result is their `stableSort`.

Of `stableSort`, the order in which elements belong:

* `stableSort_congr`: two comparisons that find the same inversions sort alike. An inversion is an
  element that stands before a lesser one.
* `zip_stableSort`: two lists with the same inversions are sorted by one permutation.
* `stableSort_pairwise`: the result ascends, if the comparison is an order.
-/

namespace QueryRegression.Sorting

variable {α β : Type}

/-- Elements in the order of a comparison, those that are equal in their given order. -/
def stableSort (cmp : α → α → Ordering) (xs : List α) : List α :=
  xs.mergeSort fun a b => cmp a b != .gt

theorem stableSort_perm (cmp : α → α → Ordering) (xs : List α) : (stableSort cmp xs).Perm xs :=
  List.mergeSort_perm xs _

/-- The elements of a list are in a consistent order: not being greater is transitive. -/
def IsConsistent (cmp : α → α → Ordering) (xs : List α) : Prop :=
  ∀ a ∈ xs, ∀ b ∈ xs, ∀ c ∈ xs, cmp a b ≠ .gt → cmp b c ≠ .gt → cmp a c ≠ .gt

instance (cmp : α → α → Ordering) (xs : List α) : Decidable (IsConsistent cmp xs) :=
  inferInstanceAs
    (Decidable (∀ a ∈ xs, ∀ b ∈ xs, ∀ c ∈ xs, cmp a b ≠ .gt → cmp b c ≠ .gt → cmp a c ≠ .gt))

/-! ## Sorting by places -/

/-- The elements of a list are those at its places. -/
theorem stableSort?_ofFn {n : Nat} (cmp : α → α → Ordering) (get : Fin n → α) :
    stableSort? cmp (List.ofFn get) =
      (sort? (fun i j => cmp (get i) (get j) == .lt) (List.finRange n)).map (List.map get) := by
  have atPlaces : ∀ (xs : List α) (length : xs.length = n)
      (_ : ∀ i : Fin n, get i = xs.get (i.cast length.symm)), stableSort? cmp xs =
        (sort? (fun i j => cmp (get i) (get j) == .lt) (List.finRange n)).map (List.map get) := by
    intro xs length elements
    subst length
    obtain rfl : get = xs.get := funext elements
    rfl
  refine atPlaces (List.ofFn get) (List.length_ofFn) fun i => ?_
  rw [List.get_ofFn]
  rfl

/-- Sorting by a key and then taking the keys is sorting the keys. -/
theorem stableSort?_map (cmp : β → β → Ordering) (f : α → β) (xs : List α) :
    stableSort? cmp (xs.map f) =
      (stableSort? (fun a b => cmp (f a) (f b)) xs).map (List.map f) := by
  rw [← List.ofFn_get xs, List.map_ofFn, stableSort?_ofFn, stableSort?_ofFn, Option.map_map]
  exact congrArg (Option.map · _) (funext fun places => (List.map_map).symm)

/-- Only comparisons of elements of the list count. -/
theorem stableSort?_congr {cmp cmp' : α → α → Ordering} {xs : List α}
    (agree : ∀ a ∈ xs, ∀ b ∈ xs, cmp a b = cmp' a b) :
    stableSort? cmp xs = stableSort? cmp' xs := by
  rw [← List.ofFn_get xs, stableSort?_ofFn, stableSort?_ofFn]
  have less : (fun i j => cmp (xs.get i) (xs.get j) == .lt) =
      fun i j => cmp' (xs.get i) (xs.get j) == .lt :=
    funext fun i => funext fun j => by rw [agree _ (xs.get_mem i) _ (xs.get_mem j)]
  rw [less]

/-- Sorting neither loses nor repeats an element, whatever the comparison. -/
theorem stableSort?_perm {cmp : α → α → Ordering} {xs ys : List α}
    (sorted : stableSort? cmp xs = some ys) : ys.Perm xs := by
  rw [← List.ofFn_get xs, stableSort?_ofFn] at sorted
  obtain ⟨places, found, rfl⟩ := Option.map_eq_some_iff.mp sorted
  have perm := ((sort?_sorts _ _).perm places found).map xs.get
  rwa [List.map_get_finRange] at perm

/-- Lists that face each other, and whose elements compare alike, still face each other, element by
element, when both are sorted. -/
theorem zip_stableSort? {cmp : α → α → Ordering} {cmp' : β → β → Ordering} {xs xs' : List α}
    {ys ys' : List β} (length : xs.length = ys.length)
    (alike : ∀ p ∈ xs.zip ys, ∀ q ∈ xs.zip ys, cmp p.1 q.1 = cmp' p.2 q.2)
    (left : stableSort? cmp xs = some xs') (right : stableSort? cmp' ys = some ys') :
    stableSort? (fun p q => cmp p.1 q.1) (xs.zip ys) = some (xs'.zip ys') := by
  rw [← List.map_fst_zip (Nat.le_of_eq length), stableSort?_map] at left
  rw [← List.map_snd_zip (Nat.le_of_eq length.symm), stableSort?_map, ← stableSort?_congr alike]
    at right
  obtain ⟨pairs, sorted, firsts⟩ := Option.map_eq_some_iff.mp left
  obtain ⟨_, sorted', seconds⟩ := Option.map_eq_some_iff.mp right
  cases sorted.symm.trans sorted'
  rw [sorted, List.zip_of_prod firsts seconds]

/-! ## Consistent orders -/

section Consistent

variable {cmp : α → α → Ordering} [Std.OrientedCmp cmp] {xs : List α}

/-- The places of elements in a consistent order are in one. -/
theorem isOrder_of_consistent (consistent : IsConsistent cmp xs) :
    IsOrder fun i j : Fin xs.length => cmp (xs.get i) (xs.get j) == .lt where
  asymm {i j} isLess := by
    rw [beq_eq_false_iff_ne]
    rw [beq_iff_eq, ← Std.OrientedCmp.gt_iff_lt] at isLess
    rw [isLess]
    exact nofun
  trans {i j k} first second := by
    rw [beq_eq_false_iff_ne, ne_eq, ← Std.OrientedCmp.gt_iff_lt] at first second ⊢
    exact consistent _ (xs.get_mem i) _ (xs.get_mem j) _ (xs.get_mem k) first second

omit [Std.OrientedCmp cmp] in
theorem zipIdx_eq_map_finRange (xs : List α) :
    xs.zipIdx = (List.finRange xs.length).map fun i => (xs.get i, i.val) := by
  apply List.ext_getElem
  · simp
  · intro i bound bound'
    simp

/-- Elements belong at the places that `Before` gives them. -/
theorem before_iff_zipIdxLE {i j : Fin xs.length} :
    Before (fun i j => cmp (xs.get i) (xs.get j) == .lt) i j ↔
      List.zipIdxLE (fun a b => cmp a b != .gt) (xs.get i, i.val) (xs.get j, j.val) = true := by
  have turned : cmp (xs.get j) (xs.get i) = (cmp (xs.get i) (xs.get j)).swap :=
    Std.OrientedCmp.eq_swap
  simp only [Before, List.zipIdxLE, turned]
  cases cmp (xs.get i) (xs.get j) <;> simp

/-- Of elements in a consistent order the sort gives the stable one. -/
theorem stableSort?_of_consistent (consistent : IsConsistent cmp xs) :
    stableSort? cmp xs = some (stableSort cmp xs) := by
  let less : Fin xs.length → Fin xs.length → Bool := fun i j => cmp (xs.get i) (xs.get j) == .lt
  have order : IsOrder less := isOrder_of_consistent consistent
  have sorts := sort?_sorts less (List.finRange xs.length)
  obtain ⟨places, found, ascending⟩ := sorts.ascending order (List.pairwise_lt_finRange _)
  -- Elements with their places have one order only, and a merge sort finds it, too.
  let le : Fin xs.length → Fin xs.length → Bool := fun i j =>
    List.zipIdxLE (fun a b => cmp a b != .gt) (xs.get i, i.val) (xs.get j, j.val)
  have belong : ∀ i j, Before less i j ↔ le i j = true := fun i j => before_iff_zipIdxLE
  have merged := @List.pairwise_mergeSort _ le
    (fun i j k => by simpa only [← belong] using Before.trans order)
    (fun i j => by simpa only [Bool.or_eq_true, ← belong] using before_or_before order i j)
    (List.finRange xs.length)
  simp only [← belong] at merged
  have samePlaces : places = (List.finRange xs.length).mergeSort le :=
    List.Perm.eq_of_pairwise (fun _ _ _ _ => Before.antisymm) ascending merged
      ((sorts.perm places found).trans (List.mergeSort_perm _ _).symm)
  have withPlaces : ((List.finRange xs.length).mergeSort le).map (fun i => (xs.get i, i.val)) =
      xs.zipIdx.mergeSort (List.zipIdxLE fun a b => cmp a b != .gt) := by
    rw [zipIdx_eq_map_finRange]
    exact List.map_mergeSort fun _ _ _ _ => rfl
  have elements : stableSort cmp xs = places.map xs.get := by
    rw [stableSort, ← List.mergeSort_zipIdx, ← withPlaces, List.map_map, samePlaces]
    rfl
  have atPlaces := stableSort?_ofFn cmp xs.get
  rw [List.ofFn_get] at atPlaces
  rw [atPlaces, elements]
  exact congrArg (Option.map _) found

end Consistent

/-! ## Inversions -/

/-- Merging compares an element with those that stand behind it only. -/
theorem mergeSort_congr {le le' : α → α → Bool} (xs : List α)
    (agree : xs.Pairwise fun a b => le a b = le' a b) : xs.mergeSort le = xs.mergeSort le' := by
  match xs with
  | [] => simp only [List.mergeSort_nil]
  | [x] => simp only [List.mergeSort_singleton]
  | x :: y :: rest =>
      let half := ((x :: y :: rest).length + 1) / 2
      have parts := agree
      rw [← List.take_append_drop half (x :: y :: rest), List.pairwise_append] at parts
      obtain ⟨front, back, across⟩ := parts
      have frontSort := mergeSort_congr ((x :: y :: rest).take half) front
      have backSort := mergeSort_congr ((x :: y :: rest).drop half) back
      rw [List.mergeSort, List.mergeSort]
      simp only [List.MergeSort.Internal.splitInTwo_fst, List.MergeSort.Internal.splitInTwo_snd]
      rw [frontSort, backSort]
      refine merge_congr fun a inFront b inBack => ?_
      exact across a (List.mem_mergeSort.mp inFront) b (List.mem_mergeSort.mp inBack)
termination_by xs.length
decreasing_by
  all_goals simp only [List.length_take, List.length_drop, List.length_cons]; omega

/-- Two comparisons that find the same inversions in a list sort it alike. -/
theorem stableSort_congr {cmp cmp' : α → α → Ordering} {xs : List α}
    (inversions : xs.Pairwise fun a b => (cmp a b = .gt ↔ cmp' a b = .gt)) :
    stableSort cmp xs = stableSort cmp' xs := by
  refine mergeSort_congr xs (inversions.imp fun {a b} same => ?_)
  rw [Bool.eq_iff_iff, bne_iff_ne, bne_iff_ne, ne_eq, ne_eq, same]

/-- A list without inversions is left as it is. -/
theorem stableSort_of_ascending {cmp : α → α → Ordering} {xs : List α}
    (ascending : xs.Pairwise fun a b => cmp a b ≠ .gt) : stableSort cmp xs = xs :=
  List.mergeSort_of_pairwise (ascending.imp fun le => by simpa only [bne_iff_ne] using le)

/-- Sorting by a key and then taking the keys is sorting the keys. -/
theorem map_stableSort (cmp : β → β → Ordering) (f : α → β) (xs : List α) :
    (stableSort (fun a b => cmp (f a) (f b)) xs).map f = stableSort cmp (xs.map f) :=
  List.map_mergeSort fun _ _ _ _ => rfl

/-- Lists that face each other and have the same inversions still face each other, element by
element, when both are sorted. -/
theorem zip_stableSort {cmp : α → α → Ordering} {cmp' : β → β → Ordering} {xs : List α}
    {ys : List β} (length : xs.length = ys.length)
    (inversions : (xs.zip ys).Pairwise fun p q => (cmp p.1 q.1 = .gt ↔ cmp' p.2 q.2 = .gt)) :
    (stableSort cmp xs).zip (stableSort cmp' ys) =
      stableSort (fun p q => cmp p.1 q.1) (xs.zip ys) := by
  have left : (stableSort (fun p q => cmp p.1 q.1) (xs.zip ys)).map Prod.fst =
      stableSort cmp xs := by
    rw [map_stableSort cmp Prod.fst, List.map_fst_zip (Nat.le_of_eq length)]
  have right : (stableSort (fun p q => cmp p.1 q.1) (xs.zip ys)).map Prod.snd =
      stableSort cmp' ys := by
    rw [stableSort_congr inversions, map_stableSort cmp' Prod.snd,
      List.map_snd_zip (Nat.le_of_eq length.symm)]
  exact (List.zip_of_prod left right).symm

/-! ## Ascent -/

/-- Sorting by an order makes the list ascend. -/
theorem stableSort_pairwise {cmp : α → α → Ordering} [Std.TransCmp cmp] (xs : List α) :
    (stableSort cmp xs).Pairwise fun a b => cmp a b ≠ .gt := by
  refine List.Pairwise.imp (R := fun a b => cmp a b != .gt)
    (fun le => by simpa only [bne_iff_ne] using le)
    (List.pairwise_mergeSort (fun a b c first second => ?_) (fun a b => ?_) xs)
  · simp only [bne_iff_ne, ne_eq, ← Ordering.isLE_eq_false, Bool.not_eq_false] at first second ⊢
    exact Std.TransCmp.isLE_trans first second
  · have turned : cmp b a = (cmp a b).swap := Std.OrientedCmp.eq_swap
    rw [turned]
    cases cmp a b <;> rfl

/-- Among lists of the same elements there is one that ascends, if only equal elements compare as
equal. -/
theorem stableSort_eq_of_perm {cmp : α → α → Ordering} [Std.TransCmp cmp] [Std.LawfulEqCmp cmp]
    {xs ys : List α} (perm : xs.Perm ys) : stableSort cmp xs = stableSort cmp ys := by
  refine List.Perm.eq_of_pairwise (fun a b _ _ le ge => ?_) (stableSort_pairwise xs)
    (stableSort_pairwise ys)
    ((stableSort_perm cmp xs).trans (perm.trans (stableSort_perm cmp ys).symm))
  rw [ne_eq, ← Ordering.isLE_eq_false, Bool.not_eq_false] at le ge
  exact Std.LawfulEqCmp.eq_of_compare (Std.OrientedCmp.isLE_antisymm le ge)

end QueryRegression.Sorting
