import Mathlib.Algebra.GroupWithZero.Nat
import QueryRegression.Proofs.SummaryAccounts

/-!
# The time of a query set

Closing a query set notes the time it took in place of any time noted before, while its results are
counted from all its occurrences.

* `Summary.elapsed_setOf_foldl`: after any steps, the time of a query set is that of its last
  closing.
* `Summary.elapsed_ofSteps`: it is the time of all closings together if and only if all of them but
  the last one took no whole millisecond.
-/

namespace QueryRegression

/-- The whole milliseconds from the beginning of a query set to its end, for a step that closes
it. -/
def SummaryStep.timeOf? (name : String) : SummaryStep → Option Nat
  | addTest _ => none
  | closeSet querySet begun ended =>
    if querySet = name then some ((ended.nanoseconds - begun.nanoseconds).toNat / 1000000)
    else none

@[simp] theorem SetSummary.elapsed_add (s : SetSummary) (result : TestResult) :
    (s.add result).elapsed = s.elapsed := by
  unfold add
  split <;> rfl

namespace Summary

variable {s : Summary} {name : String} {change : SetSummary → SetSummary}

/-! ## Steps -/

/-- A change of one query set is seen in that one only. -/
theorem setOf_updateSets (keeps : ∀ set, (change set).querySet = set.querySet)
    (changed name : String) :
    setOf { s with sets := updateSets changed change s.sets } name =
      if changed = name then change (s.setOf name) else s.setOf name := by
  obtain ⟨scenario, sets⟩ := s
  simp only [setOf]
  induction sets with
  | nil =>
      have named : (change (.empty changed)).querySet = changed := keeps _
      by_cases same : changed = name
      · rw [same] at named
        simp [updateSets, named, same]
      · simp [updateSets, named, same]
  | cons set rest ih =>
      rw [updateSets]
      by_cases here : set.querySet = changed
      · rw [if_pos here]
        by_cases same : changed = name
        · simp [keeps, here, same]
        · simp [keeps, here, same]
      · rw [if_neg here]
        by_cases same : set.querySet = name
        · have other : changed ≠ name := fun equal => here (same.trans equal.symm)
          simp [same, other]
        · simpa [same] using ih

/-- A step leaves the time of a query set as it is, unless it closes this set. -/
theorem elapsed_setOf_afterStep (step : SummaryStep) :
    ((s.afterStep step).setOf name).elapsed =
      (step.timeOf? name).getD (s.setOf name).elapsed := by
  cases step with
  | addTest result =>
      have seen := setOf_updateSets (s := s) (SetSummary.querySet_add · result)
        result.querySet name
      change (setOf { s with sets := _ } name).elapsed = _
      rw [seen, SummaryStep.timeOf?, Option.getD_none]
      split
      · exact SetSummary.elapsed_add _ result
      · rfl
  | closeSet querySet begun ended =>
      have keeps : ∀ set : SetSummary,
          (set.withElapsed (begun.elapsedTo ended).milliseconds).querySet = set.querySet :=
        fun _ => rfl
      have seen := setOf_updateSets (s := s) keeps querySet name
      change (setOf { s with sets := _ } name).elapsed = _
      rw [SummaryStep.timeOf?]
      refine (congrArg SetSummary.elapsed seen).trans ?_
      split <;> rfl

/-- After any steps, the time of a query set is that of its last closing. -/
theorem elapsed_setOf_foldl (steps : List SummaryStep) (s : Summary) :
    ((steps.foldl afterStep s).setOf name).elapsed =
      (steps.filterMap (SummaryStep.timeOf? name)).getLastD (s.setOf name).elapsed := by
  induction steps generalizing s with
  | nil => rfl
  | cons step rest ih =>
      rw [List.foldl_cons, ih, elapsed_setOf_afterStep]
      cases noted : step.timeOf? name with
      | none => rw [List.filterMap_cons_none noted, Option.getD_none]
      | some time => rw [List.filterMap_cons_some noted, List.getLastD_cons, Option.getD_some]

/-! ## Query sets of a summary -/

/-- The summary of a query set is the only one of its name. -/
theorem setOf_querySet_of_mem (distinct : (s.sets.map SetSummary.querySet).Nodup)
    {set : SetSummary} (member : set ∈ s.sets) : s.setOf set.querySet = set := by
  obtain ⟨scenario, sets⟩ := s
  simp only [setOf] at member distinct ⊢
  induction sets with
  | nil => cases member
  | cons first rest ih =>
      rw [List.map_cons, List.nodup_cons] at distinct
      rcases List.mem_cons.mp member with rfl | later
      · simp
      · have differ : first.querySet ≠ set.querySet := fun equal =>
          distinct.1 (equal ▸ List.mem_map_of_mem later)
        simpa [differ] using ih distinct.2 later

/-- A step keeps all query sets, and one that closes a query set adds it. -/
theorem mem_querySets_afterStep (step : SummaryStep)
    (seen : name ∈ s.sets.map SetSummary.querySet ∨ step.timeOf? name ≠ none) :
    name ∈ (s.afterStep step).sets.map SetSummary.querySet := by
  have added : ∀ (changed : String) (change : SetSummary → SetSummary),
      (∀ set, (change set).querySet = set.querySet) →
      name ∈ s.sets.map SetSummary.querySet ∨ changed = name →
      name ∈ (updateSets changed change s.sets).map SetSummary.querySet := by
    intro changed change keeps known
    rw [map_querySet_updateSets keeps]
    split
    next present => exact known.elim id fun same => same ▸ present
    next =>
      rcases known with earlier | rfl
      · exact List.mem_append_left _ earlier
      · exact List.mem_append_right _ (List.mem_singleton_self changed)
  cases step with
  | addTest result =>
      exact added result.querySet (·.add result) (SetSummary.querySet_add · result)
        (seen.imp_right fun closed => absurd rfl closed)
  | closeSet querySet begun ended =>
      refine added querySet (·.withElapsed _) (fun _ => rfl) (seen.imp_right fun closed => ?_)
      exact Decidable.of_not_not fun other => closed (if_neg other)

/-- A query set that was closed has a summary. -/
theorem mem_querySets_foldl (steps : List SummaryStep) (s : Summary)
    (seen : name ∈ s.sets.map SetSummary.querySet ∨
      steps.filterMap (SummaryStep.timeOf? name) ≠ []) :
    name ∈ (steps.foldl afterStep s).sets.map SetSummary.querySet := by
  induction steps generalizing s with
  | nil => exact seen.resolve_right fun closed => closed rfl
  | cons step rest ih =>
      refine ih _ ?_
      by_cases later : rest.filterMap (SummaryStep.timeOf? name) = []
      · refine .inl (mem_querySets_afterStep step (seen.imp_right fun closed noted => closed ?_))
        rw [List.filterMap_cons_none noted, later]
      · exact .inr later

/-! ## Sums of times -/

/-- The last of some numbers is their sum if and only if the others are zero. -/
theorem getLastD_eq_sum_iff (times : List Nat) :
    times.getLastD 0 = times.sum ↔ ∀ time ∈ times.dropLast, time = 0 := by
  rcases List.eq_nil_or_concat times with rfl | ⟨earlier, last, rfl⟩
  · simp
  · have positive : earlier.sum ≠ 0 ↔ ∃ time ∈ earlier, time ≠ 0 := by
      simpa only [Nat.pos_iff_ne_zero] using List.sum_pos_iff_exists_pos_nat (l := earlier)
    simpa using not_congr positive

/-- However the steps are mixed, every query set that was closed has a summary, and the time in a
summary is that of the last closing of its query set. So this is the time of all closings of the
query set together if and only if all of them but the last one took no whole millisecond. -/
theorem elapsed_ofSteps (scenario : String) (steps : List SummaryStep) (name : String) :
    let times := steps.filterMap (SummaryStep.timeOf? name)
    (times ≠ [] → ∃ set ∈ (ofSteps scenario steps).sets, set.querySet = name) ∧
      ∀ set ∈ (ofSteps scenario steps).sets, set.querySet = name →
        set.elapsed = times.getLastD 0 ∧
          (set.elapsed = times.sum ↔ ∀ time ∈ times.dropLast, time = 0) := by
  intro times
  refine ⟨fun closed => ?_, ?_⟩
  · exact List.mem_map.mp (mem_querySets_foldl steps (.empty scenario) (.inr closed))
  · rintro set member rfl
    have noted : set.elapsed = times.getLastD 0 := by
      rw [← setOf_querySet_of_mem (accounts_ofSteps scenario steps).distinct member]
      exact elapsed_setOf_foldl steps (.empty scenario)
    exact ⟨noted, noted ▸ getLastD_eq_sum_iff times⟩

/-- A query set that took a second and a half, and then two seconds. -/
theorem elapsed_ofSteps_of_two_closings :
    let steps : List SummaryStep :=
      [.closeSet "people" ⟨0⟩ ⟨1500000000⟩, .closeSet "people" ⟨2000000000⟩ ⟨4000000000⟩]
    let times := steps.filterMap (SummaryStep.timeOf? "people")
    times.sum = 3500 ∧
      ∃ set ∈ (ofSteps "regression" steps).sets, set.querySet = "people" ∧ set.elapsed = 2000 ∧
        set.elapsed ≠ times.sum := by
  intro steps times
  have noted : times = [1500, 2000] := by decide +kernel
  obtain ⟨present, elapsed⟩ := elapsed_ofSteps "regression" steps "people"
  change times ≠ [] → _ at present
  rw [noted] at present ⊢
  obtain ⟨set, member, named⟩ := present (List.cons_ne_nil 1500 [2000])
  obtain ⟨last, -⟩ := elapsed set member named
  change set.elapsed = times.getLastD 0 at last
  rw [noted] at last
  exact ⟨rfl, set, member, named, last, last ▸ by decide⟩

end Summary
end QueryRegression
