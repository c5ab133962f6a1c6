import QueryRegression.Proofs.SelfComparison
import QueryRegression.Proofs.SingleExecution
import QueryRegression.Run.Store

/-!
# Generating and comparing

Outcomes that were recorded by one run are what a second run expects. If the engine answers both
runs alike, and every answer passes against itself, the second run passes.

* `OutcomeStore.expected_record`: a recorded outcome is the one that is expected.
* `Runner.run_generating`: after a run that records, the answers of the engine are expected.
* `Runner.run_comparing_of_generating`: the run that compares with them is a success, and hands
  nothing to its sink.
-/

namespace QueryRegression

namespace OutcomeStore

theorem lookup_cons (key key' : String × String) (outcome : Outcome)
    (entries : List ((String × String) × Outcome)) :
    List.lookup key' ((key, outcome) :: entries) =
      if key' = key then some outcome else entries.lookup key' := by
  rw [List.lookup_cons]
  split
  next same => rw [if_pos (beq_iff_eq.mp same)]
  next differ => rw [if_neg (beq_eq_false_iff_ne.mp differ)]

theorem lookup_insertEntry (key key' : String × String) (outcome : Outcome)
    (entries : List ((String × String) × Outcome)) :
    (insertEntry key outcome entries).lookup key' =
      if key' = key then some outcome else entries.lookup key' := by
  induction entries with
  | nil => rw [insertEntry, lookup_cons]
  | cons entry rest ih =>
      obtain ⟨name, other⟩ := entry
      rw [insertEntry]
      split
      next replaced =>
        have same : name = key := replaced
        simp only [lookup_cons, same]
        split <;> rfl
      next kept =>
        have differ : name ≠ key := kept
        rw [lookup_cons, lookup_cons, ih]
        split
        next found => rw [if_neg (found ▸ differ)]
        next => rfl

/-- The outcome recorded for a test is expected of the tests with its key, and of no others. -/
theorem expected_record (s : OutcomeStore) (test other : QueryTest) (outcome : Outcome) :
    (s.record test outcome).expected other =
      if other.key = test.key then .ok outcome else s.expected other := by
  have found : (s.record test outcome).find? other.querySet other.query =
      if other.key = test.key then some outcome else s.find? other.querySet other.query :=
    lookup_insertEntry test.key other.key outcome s.entries
  unfold expected
  rw [found]
  by_cases same : other.key = test.key
  · rw [if_pos same, if_pos same]
  · rw [if_neg same, if_neg same]

end OutcomeStore

/-- An outcome that passes against itself: a well-formed table that does so whether or not the order
of its rows is fixed, or an exception of a class whose message has to be met exactly. -/
def Policy.Repeats (p : Policy) : Outcome → Prop
  | .table t => t.validate = .ok () ∧ ∀ isOrdered, p.Passes t t isOrdered
  | .exception e => e.className.isSome = true ∧ e.messageMatch = .exact

theorem Policy.Repeats.compare_eq {p : Policy} {outcome : Outcome} (repeats : p.Repeats outcome)
    (isOrdered : Bool) : p.compare outcome outcome isOrdered = .ok ⟨.pass, none⟩ := by
  match outcome with
  | .table t =>
      obtain ⟨formed, passes⟩ := repeats
      obtain ⟨c, compared, verdict⟩ := passes isOrdered
      rw [compared, ← verdict, ← timeExceeded_self formed compared]
  | .exception e =>
      obtain ⟨named, exact⟩ := repeats
      obtain ⟨name, className⟩ := Option.isSome_iff_exists.mp named
      have complaint : e.compareWith .standard e = .ok none := by
        simp [RaisedException.compareWith, className, exact, RaisedException.messageComplaint?,
          bind, Except.bind, pure, Except.pure]
      rw [compare_eq_ok_iff, compare?, compareUsing?, complaint]
      rfl

variable {α σ ε : Type}

/-- A source that acts on the first part of a state. -/
def Reader.onFirst (reader : Reader α) : Reader (α × σ) := fun test s =>
  let reply := reader test s.1
  ⟨reply.answer, reply.state, s.2⟩

/-- A destination that acts on the first part of a state. -/
def Writer.onFirst (writer : Writer α) : Writer (α × σ) := fun test outcome s =>
  let reply := writer test outcome s.1
  ⟨reply.answer, reply.state, s.2⟩

namespace Runner

/-- The runner that records every outcome in a store. -/
def generating (sink : Sink (OutcomeStore × σ)) : Runner (OutcomeStore × σ) :=
  .ofHandler (.generate OutcomeStore.writer.onFirst) (.ofSink sink)

/-- The runner that compares every outcome with the one in a store. -/
def comparing (p : Policy) (sink : Sink (OutcomeStore × σ)) : Runner (OutcomeStore × σ) :=
  .ofHandler (.compare p OutcomeStore.reader.onFirst sink) (.ofSink sink)

/-! ## One result -/

variable {p : Policy} {sink : Sink (OutcomeStore × σ)} {test : QueryTest} {result : TestResult}
  {collaborators : OutcomeStore × σ}

theorem settle_outcome (result : TestResult) : (settle result).outcome = result.outcome := by
  unfold settle
  split <;> rfl

/-- Without an outcome there is nothing to record. -/
theorem handleResult_generating_idle (none : result.outcome = none) :
    (handleResult (generating sink).handler test result collaborators).2.1 = collaborators := by
  have settled := (settle_outcome result).trans none
  simp [handleResult, generating, ofHandler, Handler.handle, Handler.handleGenerate, settled]

/-- An outcome is recorded as the expected one. -/
theorem handleResult_generating {outcome : Outcome} (some : result.outcome = some outcome) :
    (handleResult (generating sink).handler test result collaborators).2.1 =
      (collaborators.1.record test outcome, collaborators.2) := by
  have settled := (settle_outcome result).trans some
  simp [handleResult, generating, ofHandler, Handler.handle, Handler.handleGenerate, settled,
    Writer.onFirst, OutcomeStore.writer]

theorem isSuccess_applyComparison_pass (result : TestResult) :
    (result.applyComparison ⟨.pass, none⟩).isSuccess = true := by
  simp only [TestResult.applyComparison, TestResult.applyVerdict, TestResult.isSuccess]
  cases result.outcome.any Outcome.isException <;> rfl

/-- A test without an execution passes, and no one is asked. -/
theorem handleResult_comparing_idle
    (idle : result.outcome = none ∧ result.status = .preRun ∧ result.failures = []) :
    let handled := handleResult (comparing p sink).handler test result collaborators
    handled.1.isSuccess = true ∧ handled.2.1 = collaborators := by
  obtain ⟨none, status, failures⟩ := idle
  simp [handleResult, comparing, ofHandler, Handler.handle, Handler.handleCompare, settle, status,
    none, Handler.report, Sink.take, failures, TestResult.isSuccess, TestStatus.isSuccess]

/-- A test passes if its outcome is expected and passes against itself; then no one is told. -/
theorem handleResult_comparing {outcome : Outcome} (some : result.outcome = some outcome)
    (expected : collaborators.1.expected test = .ok outcome) (repeats : p.Repeats outcome) :
    let handled := handleResult (comparing p sink).handler test result collaborators
    handled.1.isSuccess = true ∧ handled.2.1 = collaborators := by
  have settled := (settle_outcome result).trans some
  -- What was recorded is compared with its own copy.
  have compared := repeats.compare_eq test.isOrdered
  simp only [handleResult, comparing, ofHandler, Handler.handle, Handler.handleCompare, settled,
    Reader.onFirst, OutcomeStore.reader, expected, compared]
  exact ⟨isSuccess_applyComparison_pass _, rfl⟩

/-! ## Two runs -/

variable {scenario : Scenario} {engine : Engine ε} {state : ε} {store : OutcomeStore} {noted : σ}
  {before : OutcomeStore × σ}

theorem key_ne_of_planned {done : List QueryTest}
    (distinct : (scenario.tests.map QueryTest.key).Nodup)
    (next : done ++ [test] <+: scenario.tests) : ∀ other ∈ done, other.key ≠ test.key := by
  have nodup : ((done ++ [test]).map QueryTest.key).Nodup :=
    distinct.sublist (next.sublist.map QueryTest.key)
  rw [List.map_append, List.map_singleton, List.nodup_append] at nodup
  obtain ⟨-, -, apart⟩ := nodup
  intro other member
  exact apart _ (List.mem_map_of_mem member) _ List.mem_cons_self

/-- What a run that records has done after some tests: every answer is expected of its test, and
nothing was reported. -/
structure RecordedSoFar (noted : σ) (done : List QueryTest) (given : List (Except Error Outcome))
    (collaborators : OutcomeStore × σ) : Prop where
  given : given = (done.filter QueryTest.executes).map collaborators.1.expected
  untouched : collaborators.2 = noted

/-- Recording the outcome of a further test leaves what is expected of the tests before. -/
theorem RecordedSoFar.record {done : List QueryTest} {given : List (Except Error Outcome)}
    (h : RecordedSoFar noted done given collaborators)
    (differ : ∀ other ∈ done, other.key ≠ test.key) (executes : test.executes = true)
    (outcome : Outcome) :
    RecordedSoFar noted (done ++ [test]) (given ++ [.ok outcome])
      (collaborators.1.record test outcome, collaborators.2) := by
  refine ⟨?_, h.untouched⟩
  have earlier : (done.filter QueryTest.executes).map
      (collaborators.1.record test outcome).expected =
        (done.filter QueryTest.executes).map collaborators.1.expected := by
    refine List.map_congr_left fun other member => ?_
    rw [OutcomeStore.expected_record, if_neg (differ other (List.mem_filter.mp member).1)]
  have now : (collaborators.1.record test outcome).expected test = .ok outcome := by
    rw [OutcomeStore.expected_record, if_pos rfl]
  simp [executes, earlier, now, h.given]

theorem generating_step (distinct : (scenario.tests.map QueryTest.key).Nodup) :
    (generating sink).SteadyStep scenario (fun _ answer => ∃ outcome, answer = .ok outcome)
      fun done given _ => RecordedSoFar noted done given := by
  constructor
  intro done test given results collaborators answer result next h ran allowed
  match answer with
  | none =>
      have skipped : test.executes = false := ran.executed.symm
      have unrecorded : (handleResult (generating sink).handler test result collaborators).2.1 =
          collaborators := handleResult_generating_idle (ran.idle rfl).1
      refine ⟨nofun, fun _ => ⟨?_, ?_⟩⟩
      · rw [unrecorded]
        simpa [skipped] using h.given
      · rw [unrecorded, h.untouched]
  | some (.error e) =>
      obtain ⟨outcome, impossible⟩ := allowed _ rfl
      cases impossible
  | some (.ok outcome) =>
      have recorded : (handleResult (generating sink).handler test result collaborators).2.1 =
          (collaborators.1.record test outcome, collaborators.2) :=
        handleResult_generating (ran.outcome outcome rfl)
      refine ⟨nofun, fun _ => ?_⟩
      rw [recorded]
      exact h.record (key_ne_of_planned distinct next) ran.executed.symm outcome

/-- After a run that records, every answer of the engine is expected of its test, and nothing was
reported. -/
theorem run_generating (distinct : (scenario.tests.map QueryTest.key).Nodup)
    (singles : ∀ test ∈ scenario.tests, test.countsOnly = false)
    (accepted : (engine.ping state).answer = .ok ())
    (steady : Steady (fun _ answer => ∃ outcome, answer = .ok outcome)
      ((generating sink).calls engine scenario state (store, noted) .new)) :
    RecordedSoFar noted scenario.tests
      (answers ((generating sink).calls engine scenario state (store, noted) .new))
      ((generating sink).run engine scenario state (store, noted) .new).collaborators := by
  have begun : RecordedSoFar noted [] [] (store, noted) := ⟨rfl, rfl⟩
  obtain ⟨-, recorded⟩ := run_of_steady (generating sink) engine scenario rfl singles
    (generating_step distinct) accepted begun steady
  exact recorded

/-- What a run that compares has done after some tests: asked for as many answers as tests with an
execution, and passed every test without touching anything. -/
structure PassedSoFar (before : OutcomeStore × σ) (done : List QueryTest)
    (given : List (Except Error Outcome)) (results : List TestResult)
    (collaborators : OutcomeStore × σ) : Prop where
  given : given.length = (done.filter QueryTest.executes).length
  count : results.length = done.length
  passed : ∀ result ∈ results, result.isSuccess = true
  untouched : collaborators = before

theorem PassedSoFar.add {done : List QueryTest} {given : List (Except Error Outcome)}
    {results : List TestResult} {answer : Option (Except Error Outcome)}
    {handled : TestResult} {collaborators' : OutcomeStore × σ} {ended : Instant}
    (h : PassedSoFar before done given results collaborators)
    (executed : answer.isSome = test.executes) (success : handled.isSuccess = true)
    (untouched : collaborators' = collaborators) :
    PassedSoFar before (done ++ [test]) (given ++ answer.toList) (results ++ [handled.finish ended])
      collaborators' := by
  refine ⟨?_, by simp [h.count], ?_, untouched.trans h.untouched⟩
  · rw [List.filter_append, List.length_append, List.length_append, h.given]
    cases answer <;> simp [← executed]
  · intro result member
    rcases List.mem_append.mp member with earlier | now
    · exact h.passed result earlier
    · rw [List.mem_singleton.mp now]
      exact success

/-- The outcome that is expected in the place of the next answer. -/
theorem PassedSoFar.getElem?_expected {done : List QueryTest} {given : List (Except Error Outcome)}
    {results : List TestResult} (h : PassedSoFar before done given results collaborators)
    (next : done ++ [test] <+: scenario.tests) (executes : test.executes = true) :
    ((scenario.tests.filter QueryTest.executes).map before.1.expected)[given.length]? =
      some (before.1.expected test) := by
  obtain ⟨rest, split⟩ := next
  rw [← split, h.given]
  simp [executes]

/-- A test passes whose answer is the expected outcome and passes against itself. -/
theorem PassedSoFar.next {done : List QueryTest} {given : List (Except Error Outcome)}
    {results : List TestResult} {answer : Option (Except Error Outcome)}
    (h : PassedSoFar before done given results collaborators)
    (ran : SingleResult test answer result)
    (same : ∀ a, answer = some a → a = before.1.expected test)
    (repeats : test.executes = true →
      ∃ outcome, before.1.expected test = .ok outcome ∧ p.Repeats outcome) :
    (∀ e, answer ≠ some (.error e)) ∧
      ∀ ended, PassedSoFar before (done ++ [test]) (given ++ answer.toList)
        (results ++ [(handleResult (comparing p sink).handler test result collaborators).1.finish
          ended])
        (handleResult (comparing p sink).handler test result collaborators).2.1 := by
  match answer with
  | none =>
      obtain ⟨success, untouched⟩ := handleResult_comparing_idle (ran.idle rfl)
      exact ⟨nofun, fun _ => h.add ran.executed success untouched⟩
  | some answer =>
      obtain ⟨outcome, expected, passes⟩ := repeats ran.executed.symm
      rw [(same answer rfl).trans expected] at ran ⊢
      have asked : collaborators.1.expected test = .ok outcome := by
        rw [h.untouched]
        exact expected
      obtain ⟨success, untouched⟩ := handleResult_comparing (ran.outcome outcome rfl) asked passes
      exact ⟨nofun, fun _ => h.add ran.executed success untouched⟩

/-- A run is a success if every answer of the engine is the expected outcome of its test, and all of
these pass against themselves. No test is reported. -/
theorem run_comparing (singles : ∀ test ∈ scenario.tests, test.countsOnly = false)
    (accepted : (engine.ping state).answer = .ok ())
    (repeats : ∀ test ∈ scenario.tests.filter QueryTest.executes,
      ∃ outcome, before.1.expected test = .ok outcome ∧ p.Repeats outcome)
    (steady : Steady (fun n answer => ∀ other,
        ((scenario.tests.filter QueryTest.executes).map before.1.expected)[n]? = some other →
          answer = other)
      ((comparing p sink).calls engine scenario state before .new)) :
    let run := (comparing p sink).run engine scenario state before .new
    run.report.isSuccess = true ∧ run.collaborators = before := by
  have begun : PassedSoFar before [] [] [] before :=
    ⟨rfl, rfl, fun _ member => absurd member List.not_mem_nil, rfl⟩
  have step : (comparing p sink).SteadyStep scenario (fun n answer => ∀ other,
      ((scenario.tests.filter QueryTest.executes).map before.1.expected)[n]? = some other →
        answer = other) (PassedSoFar before) := by
    constructor
    intro done test given results collaborators answer result next h ran allowed
    have member : test ∈ scenario.tests := next.subset (by simp)
    refine h.next ran (fun a got => ?_) fun executes =>
      repeats test (List.mem_filter.mpr ⟨member, executes⟩)
    have executes : test.executes = true := by rw [← ran.executed, got]; rfl
    exact allowed a got _ (h.getElem?_expected next executes)
  obtain ⟨running, h⟩ := run_of_steady (comparing p sink) engine scenario rfl singles step
    accepted begun steady
  refine ⟨?_, h.untouched⟩
  have all := List.all_eq_true.mpr h.passed
  unfold ScenarioReport.isSuccess
  rw [running, h.count, all]
  exact (Bool.and_true _).trans (beq_self_eq_true scenario.tests.length)

variable {ε' : Type}

/-- Recording and then comparing is a success, if the tests have different keys and none is confined
to its counts, the engine gets a connection and nobody asks either run to stop, every answer is an
outcome that passes against itself, and both runs get the same answers. The second run leaves the
store as it is, and the state of the sink as well: no sink, not even one that counts, is told
anything. -/
theorem run_comparing_of_generating (p : Policy) (sink : Sink (OutcomeStore × σ))
    (scenario : Scenario) (engine : Engine ε) (engine' : Engine ε') (state : ε) (state' : ε')
    (store : OutcomeStore) (noted : σ) (distinct : (scenario.tests.map QueryTest.key).Nodup)
    (singles : ∀ test ∈ scenario.tests, test.countsOnly = false)
    (accepted : (engine.ping state).answer = .ok ())
    (accepted' : (engine'.ping state').answer = .ok ()) :
    let generated := (generating sink).run engine scenario state (store, noted) .new
    let compared := (comparing p sink).run engine' scenario state' generated.collaborators .new
    let calls := (generating sink).calls engine scenario state (store, noted) .new
    let calls' := (comparing p sink).calls engine' scenario state' generated.collaborators .new
    (∀ call ∈ calls ++ calls', call.raised = false) →
      (∀ answer ∈ answers calls, ∃ outcome, answer = .ok outcome ∧ p.Repeats outcome) →
      (∀ (n : Nat) answer answer', (answers calls)[n]? = some answer →
        (answers calls')[n]? = some answer' → answer = answer') →
      compared.report.isSuccess = true ∧ compared.collaborators = generated.collaborators := by
  intro generated compared calls calls' quiet repeats alike
  have steady : Steady (fun _ answer => ∃ outcome, answer = .ok outcome) calls := by
    refine ⟨fun call member => quiet call (List.mem_append_left _ member), ?_⟩
    intro n answer inPlace
    obtain ⟨outcome, isOutcome, -⟩ := repeats answer (List.mem_of_getElem? inPlace)
    exact ⟨outcome, isOutcome⟩
  obtain ⟨given, untouched⟩ := run_generating distinct singles accepted steady
  refine run_comparing singles accepted' ?_ ⟨?_, ?_⟩
  · intro test member
    refine repeats _ ?_
    rw [given]
    exact List.mem_map_of_mem member
  · exact fun call member => quiet call (List.mem_append_right _ member)
  -- What the store expects in a place is the answer that the first run got there.
  · intro n answer inPlace other expected
    rw [← given] at expected
    exact (alike n other answer expected inPlace).symm

/-- The engine that answers executions with given outcomes, one after another. -/
def replaying : Engine (List Outcome) where
  execute _ outcomes :=
    match outcomes with
    | [] => ⟨.error (.execution "no outcome is left"), [], false⟩
    | outcome :: rest => ⟨.ok outcome, rest, false⟩
  elapsed _ := ⟨0⟩
  now _ := ⟨0⟩

/-- A table, an exception, and a test without statements, with a sink that notes what failed. -/
theorem run_comparing_of_generating_three_tests :
    let scenario : Scenario := ⟨"regression", [⟨"people",
      [.ofSql "people" "all" "SELECT name FROM people",
        .ofSql "people" "missing" "SELECT * FROM missing", ⟨"people", "nothing", []⟩]⟩]⟩
    let names : Table := ⟨["name"], ["varchar"], [[.text "bob"], [.text "ann"]], none, 3⟩
    let missing : RaisedException :=
      ⟨some "java.sql.SQLException", "Table missing not found", .exact, 1⟩
    let outcomes : List Outcome := [.table names, .exception missing]
    let sink : Sink (OutcomeStore × List String) :=
      { report := fun result _ s => ⟨.ok (), s.1, s.2 ++ [result.query]⟩ }
    let generated := (generating sink).run replaying scenario outcomes (.empty, []) .new
    let compared :=
      (comparing .exact sink).run replaying scenario outcomes generated.collaborators .new
    answers ((generating sink).calls replaying scenario outcomes (.empty, []) .new) =
        [.ok (.table names), .ok (.exception missing)] ∧
      generated.collaborators.1.size = 2 ∧ compared.report.isSuccess = true ∧
      compared.collaborators = generated.collaborators := by
  intro scenario names missing outcomes sink generated compared
  have given : answers ((generating sink).calls replaying scenario outcomes (.empty, []) .new) =
      [.ok (.table names), .ok (.exception missing)] := by decide +kernel
  have given' : answers ((comparing .exact sink).calls replaying scenario outcomes
      generated.collaborators .new) = [.ok (.table names), .ok (.exception missing)] := by
    decide +kernel
  have tablePasses : Policy.exact.Repeats (.table names) := ⟨rfl, by decide⟩
  have exceptionPasses : Policy.exact.Repeats (.exception missing) := ⟨rfl, rfl⟩
  refine ⟨given, by decide +kernel, ?_⟩
  refine run_comparing_of_generating .exact sink scenario replaying replaying outcomes outcomes
    .empty [] (by decide) (by decide) rfl rfl (by decide +kernel) ?_ ?_
  · intro answer member
    rw [given, List.mem_cons, List.mem_singleton] at member
    rcases member with rfl | rfl
    · exact ⟨_, rfl, tablePasses⟩
    · exact ⟨_, rfl, exceptionPasses⟩
  · intro n answer answer' inPlace inPlace'
    rw [given] at inPlace
    rw [given'] at inPlace'
    exact Option.some.inj (inPlace.symm.trans inPlace')

end Runner
end QueryRegression
