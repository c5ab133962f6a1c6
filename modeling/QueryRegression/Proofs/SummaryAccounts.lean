import QueryRegression.Proofs.RunInvariant

/-!
# The accounts of a summary

A summary is made in steps: results are added to the summary of their query set, and query sets are
closed, in any order. `Summary.Accounts` says what the counts then are, in terms of the results that
were added.

* `Summary.accounts_ofSteps`: every summary accounts for the results that were added to it.
* `Runner.run_accounts`: the summary of a run accounts for the results in its report, so the report
  is a success exactly if its counts say so.
-/

namespace QueryRegression

/-! ## What the counts are -/

/-- A step in which a summary is made. -/
inductive SummaryStep where
  | addTest (result : TestResult)
  | closeSet (querySet : String) (begun ended : Instant)

/-- The result that a step adds. -/
def SummaryStep.result? : SummaryStep → Option TestResult
  | addTest result => some result
  | closeSet _ _ _ => none

namespace Summary

/-- The summary after one more step. -/
def afterStep (s : Summary) : SummaryStep → Summary
  | .addTest result => s.addTest result
  | .closeSet querySet begun ended => s.closeSet querySet begun ended

/-- The summary of a scenario after some steps. -/
def ofSteps (scenario : String) (steps : List SummaryStep) : Summary :=
  steps.foldl afterStep (.empty scenario)

end Summary

/-- The counts of a query set are those of its results. -/
structure SetSummary.Counts (s : SetSummary) (results : List TestResult) : Prop where
  total : s.total = results.length
  passed : s.passed = results.countP TestResult.isSuccess
  expectedExceptions : s.expectedExceptions =
    results.countP fun result => result.status = .expectedException
  timeExceeded : s.timeExceeded = results.countP fun result => result.status = .timeExceeded
  parts : s.total = s.passed + s.failed
  failedQueries : s.failedQueries =
    (results.filter fun result => !result.isSuccess).map TestResult.query

/-- The summary counts each of the results, in its query set and in the sums. -/
structure Summary.Accounts (s : Summary) (results : List TestResult) : Prop where
  distinct : (s.sets.map SetSummary.querySet).Nodup
  counts : ∀ set ∈ s.sets,
    set.Counts (results.filter fun result => result.querySet = set.querySet)
  covered : ∀ result ∈ results, result.querySet ∈ s.sets.map SetSummary.querySet
  total : s.total = results.length
  passed : s.passed = results.countP TestResult.isSuccess
  failed : s.failed = results.countP fun result => !result.isSuccess

/-! ## One query set -/

namespace SetSummary

variable {s : SetSummary} {results : List TestResult}

theorem counts_empty (name : String) : (empty name).Counts [] := ⟨rfl, rfl, rfl, rfl, rfl, rfl⟩

@[simp] theorem querySet_add (s : SetSummary) (result : TestResult) :
    (s.add result).querySet = s.querySet := by
  unfold add
  split <;> rfl

@[simp] theorem total_add (s : SetSummary) (result : TestResult) :
    (s.add result).total = s.total + 1 := by
  unfold add
  split <;> rfl

/-- A result is counted as passed or as failed, as its status says. -/
theorem passed_add (s : SetSummary) (result : TestResult) :
    (s.add result).passed = s.passed + if result.isSuccess then 1 else 0 := by
  unfold add TestResult.isSuccess
  cases result.status <;> rfl

theorem failed_add (s : SetSummary) (result : TestResult) :
    (s.add result).failed = s.failed + if result.isSuccess then 0 else 1 := by
  unfold add TestResult.isSuccess
  cases result.status <;> rfl

theorem expectedExceptions_add (s : SetSummary) (result : TestResult) :
    (s.add result).expectedExceptions =
      s.expectedExceptions + if result.status = .expectedException then 1 else 0 := by
  unfold add
  cases result.status <;> rfl

theorem timeExceeded_add (s : SetSummary) (result : TestResult) :
    (s.add result).timeExceeded =
      s.timeExceeded + if result.status = .timeExceeded then 1 else 0 := by
  unfold add
  cases result.status <;> rfl

theorem failedQueries_add (s : SetSummary) (result : TestResult) :
    (s.add result).failedQueries =
      s.failedQueries ++ if result.isSuccess then [] else [result.query] := by
  unfold add TestResult.isSuccess
  cases result.status <;> simp [TestStatus.isSuccess]

theorem Counts.add (h : s.Counts results) (result : TestResult) :
    (s.add result).Counts (results ++ [result]) where
  total := by rw [total_add, h.total, List.length_append, List.length_singleton]
  passed := by rw [passed_add, h.passed, List.countP_append, List.countP_singleton]
  expectedExceptions := by
    rw [expectedExceptions_add, h.expectedExceptions, List.countP_append, List.countP_singleton]
    simp
  timeExceeded := by
    rw [timeExceeded_add, h.timeExceeded, List.countP_append, List.countP_singleton]
    simp
  parts := by
    rw [total_add, passed_add, failed_add, h.parts]
    split <;> omega
  failedQueries := by
    rw [failedQueries_add, h.failedQueries, List.filter_append, List.map_append]
    cases success : result.isSuccess <;> simp [success]

/-- The results that did not pass are those that failed. -/
theorem Counts.failed (h : s.Counts results) :
    s.failed = results.countP fun result => !result.isSuccess := by
  have parts := h.parts
  rw [h.total, h.passed, results.length_eq_countP_add_countP TestResult.isSuccess] at parts
  have failed := Nat.add_left_cancel parts
  simpa using failed.symm

/-- The summary with another time. -/
def withElapsed (elapsed : Nat) (s : SetSummary) : SetSummary := { s with elapsed }

theorem Counts.withElapsed (h : s.Counts results) (elapsed : Nat) :
    (s.withElapsed elapsed).Counts results := { h with }

end SetSummary

/-! ## All query sets -/

namespace Summary

variable {s : Summary} {results : List TestResult} {name : String}
  {change : SetSummary → SetSummary}

/-- A query set that did not occur comes last. -/
theorem map_querySet_updateSets (keeps : ∀ set, (change set).querySet = set.querySet)
    (name : String) (sets : List SetSummary) :
    (updateSets name change sets).map SetSummary.querySet =
      if name ∈ sets.map SetSummary.querySet then sets.map SetSummary.querySet
      else sets.map SetSummary.querySet ++ [name] := by
  induction sets with
  | nil => simp [updateSets, keeps, SetSummary.empty]
  | cons set rest ih =>
      rw [updateSets]
      split
      next same => simp [keeps, same]
      next other =>
        have differ : name ≠ set.querySet := fun equal => other equal.symm
        rw [List.map_cons, ih]
        by_cases later : name ∈ rest.map SetSummary.querySet <;> simp [later, differ]

theorem nodup_updateSets (keeps : ∀ set, (change set).querySet = set.querySet) (name : String)
    {sets : List SetSummary} (distinct : (sets.map SetSummary.querySet).Nodup) :
    ((updateSets name change sets).map SetSummary.querySet).Nodup := by
  rw [map_querySet_updateSets keeps]
  split
  next => exact distinct
  next fresh =>
    rw [List.nodup_append]
    refine ⟨distinct, List.pairwise_singleton _ name, fun other seen last isName same => ?_⟩
    rw [same, List.mem_singleton.mp isName] at seen
    exact fresh seen

/-- Only the summary of the query set is changed. -/
theorem mem_updateSets {sets : List SetSummary}
    (distinct : (sets.map SetSummary.querySet).Nodup) {set : SetSummary}
    (member : set ∈ updateSets name change sets) :
    set ∈ sets ∧ set.querySet ≠ name ∨
      (∃ old ∈ sets, old.querySet = name ∧ set = change old) ∨
      name ∉ sets.map SetSummary.querySet ∧ set = change (.empty name) := by
  induction sets with
  | nil => exact .inr (.inr ⟨List.not_mem_nil, List.mem_singleton.mp member⟩)
  | cons first rest ih =>
      rw [List.map_cons, List.nodup_cons] at distinct
      rw [updateSets] at member
      split at member
      next same =>
        rcases List.mem_cons.mp member with rfl | later
        · exact .inr (.inl ⟨first, List.mem_cons_self, same, rfl⟩)
        · refine .inl ⟨List.mem_cons_of_mem first later, fun equal => distinct.1 ?_⟩
          rw [same, ← equal]
          exact List.mem_map_of_mem later
      next other =>
        rcases List.mem_cons.mp member with rfl | later
        · exact .inl ⟨List.mem_cons_self, other⟩
        · rcases ih distinct.2 later with
            ⟨inRest, differ⟩ | ⟨old, inRest, named, rfl⟩ | ⟨fresh, rfl⟩
          · exact .inl ⟨List.mem_cons_of_mem first inRest, differ⟩
          · exact .inr (.inl ⟨old, List.mem_cons_of_mem first inRest, named, rfl⟩)
          · refine .inr (.inr ⟨?_, rfl⟩)
            rw [List.map_cons, List.mem_cons]
            rintro (equal | inRest)
            · exact other equal.symm
            · exact fresh inRest

/-- What is added to a count of one query set is added to the sum. -/
theorem sumOf_updateSets {count : SetSummary → Nat} {more : Nat}
    (adds : ∀ set ∈ s.sets, count (change set) = count set + more)
    (begins : count (change (.empty name)) = more) :
    sumOf { s with sets := updateSets name change s.sets } count = s.sumOf count + more := by
  obtain ⟨scenario, sets⟩ := s
  simp only [sumOf] at adds ⊢
  induction sets with
  | nil => simp [updateSets, begins]
  | cons set rest ih =>
      obtain ⟨first, later⟩ := List.forall_mem_cons.mp adds
      rw [updateSets]
      split
      next =>
        rw [List.foldr_cons, List.foldr_cons, first]
        omega
      next =>
        rw [List.foldr_cons, List.foldr_cons, ih later]
        omega

/-! ## Steps -/

theorem accounts_empty (scenario : String) : (empty scenario).Accounts [] :=
  ⟨List.nodup_nil, List.forall_mem_nil _, List.forall_mem_nil _, rfl, rfl, rfl⟩

/-- A query set without a summary had no results yet. -/
theorem Accounts.filter_eq_nil (h : s.Accounts results)
    (fresh : name ∉ s.sets.map SetSummary.querySet) :
    (results.filter fun result => result.querySet = name) = [] := by
  rw [List.filter_eq_nil_iff]
  intro result member same
  exact fresh (of_decide_eq_true same ▸ h.covered result member)

/-- What a count of query sets counts of some results is added to the sum. -/
theorem Accounts.sumOf_update (h : s.Accounts results) {more : List TestResult}
    (counts : ∀ {set : SetSummary} {before : List TestResult}, set.Counts before →
      (change set).Counts (before ++ more))
    {count : SetSummary → Nat} {measure : List TestResult → Nat}
    (agrees : ∀ {set : SetSummary} {before : List TestResult}, set.Counts before →
      count set = measure before)
    (additive : ∀ before, measure (before ++ more) = measure before + measure more) :
    sumOf { s with sets := updateSets name change s.sets } count = s.sumOf count + measure more := by
  refine sumOf_updateSets (fun set member => ?_) (agrees (counts (SetSummary.counts_empty name)))
  rw [agrees (counts (h.counts set member)), additive, agrees (h.counts set member)]

/-- A change that counts some results in the summary of their query set counts them in the
summary. -/
theorem Accounts.update (h : s.Accounts results)
    (keeps : ∀ set, (change set).querySet = set.querySet) {more : List TestResult}
    (ofSet : ∀ result ∈ more, result.querySet = name)
    (counts : ∀ {set : SetSummary} {before : List TestResult}, set.Counts before →
      (change set).Counts (before ++ more)) :
    Accounts { s with sets := updateSets name change s.sets } (results ++ more) := by
  have names := map_querySet_updateSets keeps name s.sets
  have begun := counts (SetSummary.counts_empty name)
  -- The new results are among those of their own query set only.
  have ofName : (more.filter fun result => result.querySet = name) = more :=
    List.filter_eq_self.mpr fun result member => decide_eq_true (ofSet result member)
  have ofOther : ∀ other ≠ name, (more.filter fun result => result.querySet = other) = [] := by
    intro other differ
    rw [List.filter_eq_nil_iff]
    intro result member same
    exact differ ((of_decide_eq_true same).symm.trans (ofSet result member))
  refine ⟨nodup_updateSets keeps name h.distinct, ?_, ?_, ?_, ?_, ?_⟩
  · intro set member
    rw [List.filter_append]
    rcases mem_updateSets h.distinct member with
      ⟨old, differ⟩ | ⟨old, inSets, named, rfl⟩ | ⟨fresh, rfl⟩
    · rw [ofOther _ differ, List.append_nil]
      exact h.counts set old
    · rw [keeps, named, ofName, ← named]
      exact counts (h.counts old inSets)
    · rw [keeps, SetSummary.empty, h.filter_eq_nil fresh, ofName]
      exact begun
  · intro result member
    change result.querySet ∈ List.map SetSummary.querySet (updateSets name change s.sets)
    rw [names]
    rcases List.mem_append.mp member with earlier | now
    · have seen := h.covered result earlier
      split
      · exact seen
      · exact List.mem_append_left _ seen
    · rw [ofSet result now]
      split
      next seen => exact seen
      next => exact List.mem_append_right _ (List.mem_singleton_self name)
  · rw [List.length_append, ← h.total]
    exact h.sumOf_update counts SetSummary.Counts.total fun _ => List.length_append
  · rw [List.countP_append, ← h.passed]
    exact h.sumOf_update counts SetSummary.Counts.passed fun _ => List.countP_append
  · rw [List.countP_append, ← h.failed]
    exact h.sumOf_update counts SetSummary.Counts.failed fun _ => List.countP_append

/-- A result that is added is counted in its query set. -/
theorem Accounts.addTest (h : s.Accounts results) (result : TestResult) :
    (s.addTest result).Accounts (results ++ [result]) :=
  h.update (SetSummary.querySet_add · result)
    (fun _ member => congrArg TestResult.querySet (List.mem_singleton.mp member))
    (fun counts => counts.add result)

/-- Closing a query set counts nothing. -/
theorem Accounts.closeSet (h : s.Accounts results) (name : String) (begun ended : Instant) :
    (s.closeSet name begun ended).Accounts results := by
  let elapsed := (begun.elapsedTo ended).milliseconds
  have counted : ∀ {set : SetSummary} {before : List TestResult}, set.Counts before →
      (set.withElapsed elapsed).Counts (before ++ []) := by
    intro set before counts
    rw [List.append_nil]
    exact counts.withElapsed elapsed
  have keeps : ∀ set : SetSummary, (set.withElapsed elapsed).querySet = set.querySet := fun _ => rfl
  have closed : (s.closeSet name begun ended).Accounts (results ++ []) :=
    h.update keeps (List.forall_mem_nil _) counted
  rw [List.append_nil] at closed
  exact closed

theorem Accounts.afterStep (h : s.Accounts results) (step : SummaryStep) :
    (s.afterStep step).Accounts (results ++ step.result?.toList) := by
  cases step with
  | addTest result => exact h.addTest result
  | closeSet name begun ended =>
      rw [SummaryStep.result?, Option.toList_none, List.append_nil]
      exact h.closeSet name begun ended

theorem Accounts.passed_add_failed (h : s.Accounts results) : s.passed + s.failed = s.total := by
  rw [h.total, h.passed, h.failed, results.length_eq_countP_add_countP TestResult.isSuccess]
  simp

theorem Accounts.failed_eq_zero_iff (h : s.Accounts results) :
    s.failed = 0 ↔ ∀ result ∈ results, result.isSuccess = true := by
  rw [h.failed, List.countP_eq_zero]
  simp

/-- A summary accounts for the results that were added to it, however the steps are mixed. -/
theorem accounts_ofSteps (scenario : String) (steps : List SummaryStep) :
    (ofSteps scenario steps).Accounts (steps.filterMap SummaryStep.result?) := by
  suffices later : ∀ (s : Summary) (results : List TestResult), s.Accounts results →
      (steps.foldl Summary.afterStep s).Accounts
        (results ++ steps.filterMap SummaryStep.result?) from
    later _ [] (accounts_empty scenario)
  induction steps with
  | nil =>
      intro s results h
      rw [List.filterMap_nil, List.append_nil]
      exact h
  | cons step rest ih =>
      intro s results h
      have next := ih _ _ (h.afterStep step)
      rw [List.append_assoc] at next
      cases step <;> exact next

end Summary

/-! ## Runs -/

namespace Runner

variable {ε κ : Type} (r : Runner κ) (engine : Engine ε) (scenario : Scenario)

/-- A test adds one result to the summary, and the same one to the results. -/
theorem afterTest_counted (test : QueryTest) (s : RunState ε κ) :
    ∃ result, (r.afterTest engine scenario test s).summary = s.summary.addTest result ∧
      (r.afterTest engine scenario test s).results = s.results ++ [result] := by
  have cleaned : ∀ s' : RunState ε κ, (cleanUp engine test s').summary = s'.summary ∧
      (cleanUp engine test s').results = s'.results := by
    intro s'
    unfold cleanUp
    dsimp only
    split <;> exact ⟨rfl, rfl⟩
  have heeded : ∀ s' : RunState ε κ, (heedInterrupt scenario.name s').summary = s'.summary ∧
      (heedInterrupt scenario.name s').results = s'.results := by
    intro s'
    unfold heedInterrupt
    split
    · exact ⟨rfl, rfl⟩
    · split <;> exact ⟨rfl, rfl⟩
  unfold afterTest
  rw [(heeded _).1, (heeded _).2, (cleaned _).1, (cleaned _).2]
  exact ⟨_, rfl, rfl⟩

/-- A summary and results that come from the same steps. -/
def MadeInSteps (scenario : Scenario) (s : RunState ε κ) : Prop :=
  ∃ steps, s.summary = .ofSteps scenario.name steps ∧
    s.results = steps.filterMap SummaryStep.result?

theorem MadeInSteps.step {scenario : Scenario} {s s' : RunState ε κ} (h : MadeInSteps scenario s)
    (step : SummaryStep) (summary : s'.summary = s.summary.afterStep step)
    (results : s'.results = s.results ++ step.result?.toList) : MadeInSteps scenario s' := by
  obtain ⟨steps, made, added⟩ := h
  refine ⟨steps ++ [step], ?_, ?_⟩
  · rw [summary, made, Summary.ofSteps, Summary.ofSteps, List.foldl_append]
    rfl
  · rw [results, added, List.filterMap_append]
    cases step <;> rfl

theorem invariant_madeInSteps (deadline : Option Span) :
    r.Invariant engine scenario deadline fun _ s => MadeInSteps scenario s where
  test {_ test s} _ _ _ h := by
    obtain ⟨result, summary, results⟩ := r.afterTest_counted engine scenario test s
    exact h.step (.addTest result) summary results
  late _ _ _ h := h
  opened _ h := h
  closed name begun ended _ h := h.step (.closeSet name begun ended) rfl (List.append_nil _).symm

/-- The summary and the results of a run come from the same steps. -/
theorem madeInSteps_finalState (state : ε) (collaborators : κ) (interrupt : Interrupt) :
    MadeInSteps scenario (r.finalState engine scenario state collaborators interrupt) := by
  have begun : MadeInSteps scenario (r.start engine scenario state collaborators interrupt) :=
    ⟨[], rfl, rfl⟩
  by_cases connected : (r.start engine scenario state collaborators interrupt).abort = none
  · obtain ⟨_, -, made, -⟩ := (r.invariant_madeInSteps engine scenario _).finalState connected begun
    exact made
  · rw [finalState_of_not_connected connected]
    exact begun

/-- The summary of a run accounts for the results in its report, and so does every summary for the
results that were added to it. The report is a success if and only if nothing stopped the run and
its counts say that all planned tests ran and none failed. -/
theorem run_accounts (state : ε) (collaborators : κ) (interrupt : Interrupt) :
    let report := (r.run engine scenario state collaborators interrupt).report
    (∀ name steps, (Summary.ofSteps name steps).Accounts (steps.filterMap SummaryStep.result?)) ∧
      report.summary.Accounts report.results ∧ report.summary.total = report.results.length ∧
      report.summary.passed + report.summary.failed = report.summary.total ∧
      (report.isSuccess = true ↔
        report.abort = none ∧ report.summary.failed = 0 ∧
          report.summary.total = report.planned) := by
  intro report
  obtain ⟨steps, summary, results⟩ :=
    r.madeInSteps_finalState engine scenario state collaborators interrupt
  have accounts : report.summary.Accounts report.results := by
    change (r.finalState engine scenario state collaborators interrupt).summary.Accounts
      (r.finalState engine scenario state collaborators interrupt).results
    rw [summary, results]
    exact Summary.accounts_ofSteps scenario.name steps
  refine ⟨Summary.accounts_ofSteps, accounts, accounts.total, accounts.passed_add_failed, ?_⟩
  rw [ScenarioReport.isSuccess, Bool.and_eq_true, Bool.and_eq_true, Option.isNone_iff_eq_none,
    beq_iff_eq, accounts.total, accounts.failed_eq_zero_iff, List.all_eq_true, and_assoc,
    and_comm (a := report.results.length = report.planned)]

end Runner
end QueryRegression
