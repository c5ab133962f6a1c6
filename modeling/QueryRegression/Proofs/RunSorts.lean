import QueryRegression.Proofs.ShortSorts
import QueryRegression.Sorting.Runs

/-!
# Sorting by runs

Each run stands for a stretch of the list, the stretches follow one another, and joining two
neighbours gives a run that stands for both stretches. That is all the tree of joins is asked for;
its depths decide only which neighbours are joined first.

* `splitRuns?_makes`: the runs that a list is split into stand for the list.
* `joinRuns?_makes`: the run that all runs are joined into stands for the list.
* `sortEagerly?_sorts`: sorting each run at once, and merging when runs are joined, sorts the list.
-/

namespace QueryRegression.Sorting

variable {α ρ σ : Type}

/-! ## Stretches of a list -/

theorem take_length_continuation (less : α → α → Bool) (descending : Bool) (x : α) (ys : List α) :
    ys.take (continuation less descending x ys).length = continuation less descending x ys := by
  induction ys generalizing x with
  | nil => rfl
  | cons y ys ih =>
      unfold continuation
      split
      · rw [List.length_cons, List.take_succ_cons, ih]
      · rfl

/-- What holds of neighbours that go on in one direction, and is transitive, holds of any two. -/
theorem continuation_pairwise {less : α → α → Bool} {descending : Bool} {R : α → α → Prop}
    (trans : ∀ {a b c}, R a b → R b c → R a c) {x : α} {ys : List α}
    (steps : (x :: continuation less descending x ys).Pairwise fun a b =>
      (less b a == descending) = true → R a b) :
    (x :: continuation less descending x ys).Pairwise R := by
  induction ys generalizing x with
  | nil => exact List.pairwise_singleton R x
  | cons y ys ih =>
      unfold continuation at steps ⊢
      split
      next goesOn =>
        obtain ⟨head, tail⟩ := List.pairwise_cons.mp (if_pos goesOn ▸ steps)
        have first := head y List.mem_cons_self goesOn
        have rest := ih tail
        refine List.pairwise_cons.mpr ⟨fun z member => ?_, rest⟩
        rcases List.mem_cons.mp member with rfl | later
        · exact first
        · exact trans first ((List.pairwise_cons.mp rest).1 z later)
      next => exact List.pairwise_singleton R x

variable [LinearOrder α] {less : α → α → Bool}

/-- `ys` are the elements of a stretch, sorted. -/
structure IsSortOf (less : α → α → Bool) (ys stretch : List α) : Prop where
  perm : ys.Perm stretch
  ascending : IsOrder less → stretch.Pairwise (· < ·) → ys.Pairwise (Before less)

theorem IsSortOf.merge {left right xs ys : List α} (leftSort : IsSortOf less left xs)
    (rightSort : IsSortOf less right ys) :
    IsSortOf less (Sorting.merge less left right) (xs ++ ys) where
  perm := by
    have parts := leftSort.perm.append rightSort.perm
    unfold Sorting.merge
    split
    · exact (mergeForward_perm less left right).trans parts
    · exact (mergeBackward_perm less left right).trans parts
  ascending order places := by
    obtain ⟨front, back, across⟩ := List.pairwise_append.mp places
    have leftSorted := leftSort.ascending order front
    have rightSorted := rightSort.ascending order back
    have apart : ∀ x ∈ left, ∀ y ∈ right, x < y := fun x inLeft y inRight =>
      across x (leftSort.perm.mem_iff.mp inLeft) y (rightSort.perm.mem_iff.mp inRight)
    unfold Sorting.merge
    split
    · exact mergeForward_pairwise order leftSorted rightSorted apart
    · exact mergeBackward_pairwise order leftSorted rightSorted apart

/-- A stretch that goes on in one direction is sorted, once it is turned if it descends. -/
theorem isSortOf_continuation (less : α → α → Bool) (descending : Bool) (x : α) (ys : List α) :
    IsSortOf less
      (if descending then (x :: continuation less descending x ys).reverse
        else x :: continuation less descending x ys)
      (x :: continuation less descending x ys) where
  perm := by
    split
    · exact List.reverse_perm _
    · exact .refl _
  ascending order places := by
    cases descending with
    | true =>
        refine List.pairwise_reverse.mpr (continuation_pairwise (R := fun a b => Before less b a)
          (fun first second => second.trans order first) (places.imp fun _ goesOn => ?_))
        exact before_of_less order (eq_of_beq goesOn)
    | false =>
        refine continuation_pairwise (R := Before less) (Before.trans order)
          (places.imp fun place goesOn => ?_)
        exact before_of_lt place (eq_of_beq goesOn)

/-! ## Runs and the stretches they stand for -/

/-- What is made of a stretch stands for it, and is there if the comparison is an order. -/
structure Makes (less : α → α → Bool) (StandsFor : ρ → List α → Prop) (stretch : List α)
    (made : Option ρ) : Prop where
  standsFor : ∀ run, made = some run → StandsFor run stretch
  exists_of_order : IsOrder less → stretch.Pairwise (· < ·) → ∃ run, made = some run

theorem Sorts.makes {xs : List α} {sorted : Option (List α)} (sorts : Sorts less xs sorted) :
    Makes less (IsSortOf less) xs sorted where
  standsFor ys found := by
    refine ⟨sorts.perm ys found, fun order places => ?_⟩
    obtain ⟨zs, found', ascending⟩ := sorts.ascending order places
    cases found.symm.trans found'
    exact ascending
  exists_of_order order places := (sorts.ascending order places).imp fun _ => And.left

theorem Makes.sorts {xs : List α} {sorted : Option (List α)}
    (makes : Makes less (IsSortOf less) xs sorted) : Sorts less xs sorted where
  perm ys found := (makes.standsFor ys found).perm
  ascending order places := by
    obtain ⟨ys, found⟩ := makes.exists_of_order order places
    exact ⟨ys, found, (makes.standsFor ys found).ascending order places⟩

theorem makes_some {StandsFor : ρ → List α → Prop} {run : ρ} {stretch : List α}
    (stands : StandsFor run stretch) : Makes less StandsFor stretch (some run) where
  standsFor _ found := Option.some.inj found ▸ stands
  exists_of_order _ _ := ⟨run, rfl⟩

/-- One step after another, the first of which is about a part of the stretch. -/
theorem Makes.bind {First : ρ → List α → Prop} {Second : σ → List α → Prop}
    {part stretch : List α} {made : Option ρ} {next : ρ → Option σ}
    (first : Makes less First part made) (sublist : part.Sublist stretch)
    (second : ∀ run, First run part → Makes less Second stretch (next run)) :
    Makes less Second stretch (made.bind next) where
  standsFor result found := by
    obtain ⟨run, isMade, nextMade⟩ := Option.bind_eq_some_iff.mp found
    exact (second run (first.standsFor run isMade)).standsFor result nextMade
  exists_of_order order places := by
    obtain ⟨run, isMade⟩ := first.exists_of_order order (places.sublist sublist)
    rw [isMade]
    exact (second run (first.standsFor run isMade)).exists_of_order order places

/-- Runs that stand for stretches one behind the other. -/
inductive InRow (StandsFor : ρ → List α → Prop) : List ρ → List α → Prop
  | nil : InRow StandsFor [] []
  | cons {run : ρ} {runs : List ρ} {stretch rest : List α} (first : StandsFor run stretch)
    (others : InRow StandsFor runs rest) : InRow StandsFor (run :: runs) (stretch ++ rest)

/-- Runs, the last one first, that wait to be joined with what follows them. -/
inductive Waiting (StandsFor : ρ → List α → Prop) : List (ρ × Nat) → List α → Prop
  | nil : Waiting StandsFor [] []
  | cons {run : ρ} {depth : Nat} {before : List (ρ × Nat)} {front stretch : List α}
    (others : Waiting StandsFor before front) (last : StandsFor run stretch) :
    Waiting StandsFor ((run, depth) :: before) (front ++ stretch)

/-- Waiting runs and the one that follows them. -/
def Pending (StandsFor : ρ → List α → Prop) (runs : List (ρ × Nat) × ρ) (whole : List α) : Prop :=
  ∃ front stretch, Waiting StandsFor runs.1 front ∧ StandsFor runs.2 stretch ∧
    whole = front ++ stretch

section Joining

variable {StandsFor : ρ → List α → Prop} {join? : ρ → ρ → Option ρ}
  (joins : ∀ {left right xs ys}, StandsFor left xs → StandsFor right ys →
    Makes less StandsFor (xs ++ ys) (join? left right))
include joins

theorem joinDeeper?_makes (depth : Nat) {before : List (ρ × Nat)} {run : ρ} {front stretch : List α}
    (waiting : Waiting StandsFor before front) (stands : StandsFor run stretch) :
    Makes less (Pending StandsFor) (front ++ stretch) (joinDeeper? join? depth before run) := by
  induction waiting generalizing run stretch with
  | nil => exact makes_some ⟨[], stretch, .nil, stands, rfl⟩
  | @cons left leftDepth before front leftStretch others last ih =>
      unfold joinDeeper?
      split
      · rw [List.append_assoc]
        exact (joins last stands).bind (List.sublist_append_right ..) fun _ => ih
      · exact makes_some ⟨_, stretch, .cons others last, stands, rfl⟩

omit [LinearOrder α] joins in
/-- Depth zero leaves no run waiting. -/
theorem joinDeeper?_zero {before before' : List (ρ × Nat)} {run run' : ρ}
    (joined : joinDeeper? join? 0 before run = some (before', run')) : before' = [] := by
  induction before generalizing run with
  | nil =>
      cases joined
      rfl
  | cons left before ih =>
      obtain ⟨both, -, rest⟩ := Option.bind_eq_some_iff.mp joined
      exact ih rest

/-- The run that all runs are joined into stands for all stretches. -/
theorem joinRuns?_makes (length : ρ → Nat) (scale start : Nat) {before : List (ρ × Nat)} {run : ρ}
    {runs : List ρ} {front stretch rest : List α} (waiting : Waiting StandsFor before front)
    (stands : StandsFor run stretch) (inRow : InRow StandsFor runs rest) :
    Makes less StandsFor (front ++ stretch ++ rest)
      (joinRuns? join? length scale start before run runs) := by
  induction inRow generalizing start before run front stretch with
  | nil =>
      rw [List.append_nil]
      have joined := joinDeeper?_makes joins 0 waiting stands
      constructor
      case standsFor =>
        intro whole found
        obtain ⟨⟨before', run'⟩, found', rfl⟩ := Option.map_eq_some_iff.mp found
        obtain ⟨front', stretch', waiting', stands', parts⟩ := joined.standsFor _ found'
        cases joinDeeper?_zero found'
        cases waiting'
        rw [parts]
        exact stands'
      case exists_of_order =>
        intro order places
        obtain ⟨both, found⟩ := joined.exists_of_order order places
        exact ⟨both.2, congrArg (Option.map Prod.snd) found⟩
  | @cons next runs nextStretch rest first others ih =>
      refine (joinDeeper?_makes joins _ waiting stands).bind (List.sublist_append_left ..) ?_
      intro both pending
      obtain ⟨front', stretch', waiting', stands', parts⟩ := pending
      rw [parts, ← List.append_assoc]
      exact ih _ (.cons waiting' stands') first

end Joining

/-! ## Splitting -/

/-- The runs of a list stand for it. -/
theorem splitRuns?_makes {StandsFor : ρ → List α → Prop} (minRun shortRun : Nat)
    {ofSorted : List α → ρ} {ofShort? : List α → Option ρ}
    (sorted : ∀ {ys stretch}, IsSortOf less ys stretch → StandsFor (ofSorted ys) stretch)
    (short : ∀ stretch, Makes less StandsFor stretch (ofShort? stretch)) (xs : List α) :
    Makes less (InRow StandsFor) xs (splitRuns? less minRun shortRun ofSorted ofShort? xs) := by
  match xs with
  | [] =>
      rw [splitRuns?]
      exact makes_some .nil
  | x :: xs =>
      rw [splitRuns?]
      generalize descends less (x :: xs) = descending
      have whole : x :: xs = (x :: continuation less descending x xs) ++
          xs.drop (continuation less descending x xs).length := by
        have parts := List.take_append_drop (continuation less descending x xs).length xs
        rw [take_length_continuation] at parts
        rw [List.cons_append, parts]
      have whole' : x :: xs = (x :: xs.take (shortRun - 1)) ++ xs.drop (shortRun - 1) :=
        congrArg (x :: ·) (List.take_append_drop (shortRun - 1) xs).symm
      dsimp only
      split
      · rw [whole]
        refine (splitRuns?_makes minRun shortRun sorted short _).bind
          (List.sublist_append_right ..) fun runs inRow => ?_
        exact makes_some (.cons (sorted (isSortOf_continuation less descending x xs)) inRow)
      · rw [whole']
        refine (short _).bind (List.sublist_append_left ..) fun run stands => ?_
        refine (splitRuns?_makes minRun shortRun sorted short _).bind
          (List.sublist_append_right ..) fun runs inRow => ?_
        exact makes_some (.cons stands inRow)
termination_by xs.length
decreasing_by all_goals simp only [List.length_drop, List.length_cons]; omega

/-- Sorting each run at once sorts the list. -/
theorem sortEagerly?_sorts (less : α → α → Bool) (xs : List α) :
    Sorts less xs (sortEagerly? less xs) := by
  apply Makes.sorts
  have split : Makes less (InRow (IsSortOf less)) xs _ :=
    splitRuns?_makes (minRunLength xs.length) shortLength id
      (fun stretch => (sortShort?_sorts less stretch).makes) xs
  refine split.bind (.refl xs) fun runs inRow => ?_
  cases inRow with
  | nil => exact makes_some ⟨.refl [], fun _ _ => .nil⟩
  | cons first others =>
      exact joinRuns?_makes (fun left right => makes_some (left.merge right)) _ _ 0 .nil first
        others

end QueryRegression.Sorting
