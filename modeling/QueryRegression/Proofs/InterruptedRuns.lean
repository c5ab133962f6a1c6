import QueryRegression.Proofs.AbortAttribution

/-!
# Requests to stop

A runner keeps one flag for all of its runs. A request to stop raises it, and the run that finds it
raised after a test stops there. No run leaves it raised, so a request ends one run at most.

* `Runner.session`: runs of one runner, one after the other.
* `RunRequest.Heeded`: what requests to stop mean for one run of a session.
* `Runner.session_heeded`: every run of every session heeds the requests that were made since the
  run before it returned, and no others.
-/

namespace QueryRegression

variable {ε κ : Type}

/-! ## Sessions -/

/-- A run that a runner is asked for. -/
structure RunRequest (ε : Type) where
  engine : Engine ε
  scenario : Scenario
  state : ε
  /-- Whether someone asked the runner to stop since its last run returned. -/
  raised : Bool

/-- Runs of one runner, one after the other. They share the collaborators and the flag. -/
def Runner.session (r : Runner κ) : List (RunRequest ε) → κ → Interrupt → List (Run ε κ)
  | [], _, _ => []
  | request :: rest, collaborators, interrupt =>
    let run := r.run request.engine request.scenario request.state collaborators
      (interrupt.raiseIf request.raised)
    run :: r.session rest run.collaborators run.interrupt

/-- Whether someone asked for a stop before the first test or no later than the cleanup of the test
with the given number, counted from one. -/
def askedBy (before : Bool) (traces : List TestTrace) (number : Nat) : Bool :=
  before || (traces.take number).any fun trace => trace.calls.any EngineCall.raised

/-- The run stopped for another reason than a request, before the test with the given number or by
that test. -/
def StoppedOtherwise (traces : List TestTrace) (report : ScenarioReport) (number : Nat) : Prop :=
  ∃ reason, report.abort = some reason ∧ reason.kind ≠ .interrupted ∧
    (traces.length < number ∨ ∃ trace, traces[number - 1]? = some trace ∧
      trace.calls.findSome? EngineCall.abortReason = some reason)

/-- What requests to stop mean for the run of a request that begins with some collaborators. -/
structure RunRequest.Heeded (r : Runner κ) (request : RunRequest ε) (collaborators : κ)
    (run : Run ε κ) : Prop where
  /-- Of the runs before there is no trace but in the collaborators. -/
  own : run =
    r.run request.engine request.scenario request.state collaborators ⟨request.raised⟩
  lowered : run.interrupt = .new
  traced : ∃ traces,
    RunTraces r request.engine request.scenario request.state collaborators ⟨request.raised⟩
      traces ∧
    let before := request.raised || (request.engine.ping request.state).raised
    /- The first test by whose cleanup someone asked is the last one that is run. -/
    ((request.engine.ping request.state).answer = .ok () →
      ∀ number, 0 < number → number ≤ request.scenario.tests.length →
        askedBy before traces number = true →
        (∀ earlier, 0 < earlier → earlier < number → askedBy before traces earlier = false) →
        ¬StoppedOtherwise traces run.report number →
        run.report.results.length = number ∧ run.report.abort = some Runner.wasInterrupted) ∧
    /- Nothing else is taken for a request. -/
    ∀ reason, run.report.abort = some reason → reason.kind = .interrupted →
      0 < traces.length ∧ askedBy before traces traces.length = true

/-- Every run begins with the collaborators that the run before it left, and heeds its own requests
to stop. -/
inductive SessionHeeded (r : Runner κ) : κ → List (RunRequest ε) → List (Run ε κ) → Prop
  | nil {collaborators} : SessionHeeded r collaborators [] []
  | cons {collaborators request rest run runs} : request.Heeded r collaborators run →
      SessionHeeded r run.collaborators rest runs →
      SessionHeeded r collaborators (request :: rest) (run :: runs)

/-! ## One test -/

theorem askedBy_append {before : Bool} {traces more : List TestTrace} {number : Nat}
    (within : number ≤ traces.length) :
    askedBy before (traces ++ more) number = askedBy before traces number := by
  rw [askedBy, List.take_append_of_le_length within, askedBy]

theorem askedBy_concat (before : Bool) (traces : List TestTrace) (trace : TestTrace) :
    askedBy before (traces ++ [trace]) (traces ++ [trace]).length =
      (askedBy before traces traces.length || trace.calls.any EngineCall.raised) := by
  rw [askedBy, askedBy, List.take_length, List.take_length, List.any_append, Bool.or_assoc,
    List.any_cons, List.any_nil, Bool.or_false]

/-- A call that ends a run is never taken for a request. -/
theorem EngineCall.kind_of_abortReason {calls : List EngineCall} {reason : AbortReason}
    (ended : calls.findSome? EngineCall.abortReason = some reason) : reason.kind = .connection := by
  obtain ⟨call, -, isReason⟩ := List.exists_of_findSome?_eq_some ended
  match call with
  | .ping (.error e) _ => cases isReason; rfl
  | .execute _ (.error e) _ =>
      simp only [EngineCall.abortReason, Runner.abortOf] at isReason
      split at isReason
      · cases isReason
        rfl
      · cases isReason
  | .ping (.ok _) _ | .execute _ (.ok _) _ | .cleanup _ _ => cases isReason

/-- What the requests to stop mean for the state after some tests. -/
structure HeededAt (before : Bool) (traces : List TestTrace)
    (s : RunState (ε × List EngineCall) (κ × List CollaboratorCall)) : Prop where
  /-- After a test by whose end someone asked there is no further test. -/
  prompt : ∀ number, 0 < number → number < traces.length → askedBy before traces number = false
  /-- A request before the first test waits for its end. -/
  waiting : s.abort = none → s.interrupt.raised = askedBy before traces traces.length
  calm : s.abort = none → traces ≠ [] → askedBy before traces traces.length = false
  heeded : ∀ last, traces.getLast? = some last → ∀ reason,
    (last.calls.findSome? EngineCall.abortReason).or
      (if askedBy before traces traces.length then some Runner.wasInterrupted else none) =
        some reason → s.abort = some reason
  caused : ∀ reason, s.abort = some reason → reason.kind = .interrupted →
    0 < traces.length ∧ askedBy before traces traces.length = true

namespace HeededAt

variable {r : Runner κ} {engine : Engine ε} {scenario : Scenario} {before : Bool}
  {traces : List TestTrace} {trace : TestTrace}
  {s s' : RunState (ε × List EngineCall) (κ × List CollaboratorCall)}

theorem test (h : HeededAt before traces s) (running : s.abort = none)
    (abort : s'.abort = (trace.calls.findSome? EngineCall.abortReason).or
      (if s.interrupt.raised || trace.calls.any EngineCall.raised then some Runner.wasInterrupted
        else none))
    (raised : s'.interrupt.raised = true →
      (s.interrupt.raised || trace.calls.any EngineCall.raised) = true) :
    HeededAt before (traces ++ [trace]) s' := by
  rw [h.waiting running, ← askedBy_concat] at abort raised
  -- A run goes on only if nobody asked.
  have goesOn : s'.abort = none →
      askedBy before (traces ++ [trace]) (traces ++ [trace]).length = false := by
    intro still
    have none := (Option.or_eq_none_iff.mp (abort.symm.trans still)).2
    split at none
    · cases none
    next unasked => exact Bool.eq_false_iff.mpr unasked
  refine ⟨?_, fun still => ?_, fun still _ => goesOn still, ?_, ?_⟩
  · intro number positive below
    rw [List.length_append, List.length_singleton] at below
    rw [askedBy_append (Nat.le_of_lt_succ below)]
    rcases Nat.lt_succ_iff_lt_or_eq.mp below with earlier | rfl
    · exact h.prompt number positive earlier
    · exact h.calm running (List.ne_nil_of_length_pos positive)
  · rw [goesOn still]
    exact Bool.eq_false_iff.mpr fun isRaised => by
      rw [goesOn still] at raised
      cases raised isRaised
  · intro last isLast reason stops
    rw [List.getLast?_concat] at isLast
    cases isLast
    exact abort.trans stops
  · intro reason stopped kind
    refine ⟨by simp, ?_⟩
    rw [stopped] at abort
    rcases Option.or_eq_some_iff.mp abort.symm with ended | ⟨-, asked⟩
    · cases (EngineCall.kind_of_abortReason ended).symm.trans kind
    · split at asked
      next byThen => exact byThen
      next => cases asked

variable (r engine scenario) in
theorem invariant (deadline : Option Span) :
    r.TraceInvariant engine scenario deadline fun traces s => HeededAt before traces s where
  test {_ trace s} running _ received h := by
    obtain ⟨calls, -, received', -, abort, raised⟩ :=
      r.recorded.afterTest_calls engine scenario trace.test s
    have same : calls = trace.calls := List.append_cancel_left (received'.symm.trans received)
    subst same
    exact h.test running abort raised
  late {traces s} running _ h := by
    refine ⟨h.prompt, nofun, nofun, ?_, ?_⟩
    · intro last isLast reason stops
      cases running.symm.trans (h.heeded last isLast reason stops)
    · intro reason stopped kind
      cases stopped
      cases kind
  opened _ h := ⟨h.prompt, h.waiting, h.calm, h.heeded, h.caused⟩
  closed _ _ _ _ h := ⟨h.prompt, h.waiting, h.calm, h.heeded, h.caused⟩

/-- Before the first test nothing but the connection can have stopped the run. -/
theorem start (state : ε) (collaborators : κ) (interrupt : Interrupt) :
    HeededAt (interrupt.raised || (engine.ping state).raised) []
      (r.recorded.start engine.recorded scenario (state, []) (collaborators, []) interrupt) := by
  obtain ⟨-, raised, abort⟩ :=
    r.recorded.start_calls engine scenario state (collaborators, []) interrupt
  refine ⟨fun number _ below => absurd below (Nat.not_lt_zero number), fun _ => ?_,
    fun _ some => absurd rfl some, fun last isLast => ?_, ?_⟩
  · rw [raised, askedBy, List.take_nil, List.any_nil, Bool.or_false]
  · cases isLast
  · intro reason stopped kind
    have ended : [EngineCall.ping (engine.ping state).answer (engine.ping state).raised].findSome?
        EngineCall.abortReason = some reason := by
      rw [List.findSome?_singleton, ← abort, stopped]
    cases (EngineCall.kind_of_abortReason ended).symm.trans kind

/-- The first test by whose cleanup someone asked for a stop is the last one, unless the run stopped
before. -/
theorem length_eq_of_asked (h : HeededAt before traces s) {report : ScenarioReport}
    (abort : report.abort = s.abort) {total : Nat}
    (complete : report.abort = none → traces.length = total) {number : Nat} (positive : 0 < number)
    (planned : number ≤ total) (asked : askedBy before traces number = true)
    (first : ∀ earlier, 0 < earlier → earlier < number → askedBy before traces earlier = false)
    (unstopped : ¬StoppedOtherwise traces report number) : traces.length = number := by
  rcases Nat.lt_trichotomy traces.length number with short | equal | long
  · cases stopped : report.abort with
    | none =>
        have all := complete stopped
        omega
    | some reason =>
        refine absurd ⟨reason, stopped, fun interrupted => ?_, .inl short⟩ unstopped
        obtain ⟨some, byThen⟩ := h.caused reason (abort.symm.trans stopped) interrupted
        rw [first _ some short] at byThen
        cases byThen
  · exact equal
  · rw [h.prompt number positive long] at asked
    cases asked

/-- A run whose last test is one by whose cleanup someone asked stops because of that, unless the
test ended the run itself. -/
theorem abort_of_asked (h : HeededAt before traces s) {report : ScenarioReport}
    (abort : report.abort = s.abort) (positive : 0 < traces.length)
    (asked : askedBy before traces traces.length = true)
    (unstopped : ¬StoppedOtherwise traces report traces.length) :
    report.abort = some Runner.wasInterrupted := by
  have inRange : traces.length - 1 < traces.length := Nat.sub_lt positive Nat.one_pos
  have isLast : traces.getLast? = some traces[traces.length - 1] := by
    rw [List.getLast?_eq_getElem?, List.getElem?_eq_getElem inRange]
  cases ended : traces[traces.length - 1].calls.findSome? EngineCall.abortReason with
  | none =>
      refine abort.trans (h.heeded _ isLast _ ?_)
      rw [ended, if_pos asked, Option.none_or]
  | some reason =>
      have stops := abort.trans (h.heeded _ isLast reason (by rw [ended, Option.some_or]))
      refine absurd ⟨reason, stops, fun interrupted => ?_, .inr ⟨_, ?_, ended⟩⟩ unstopped
      · cases (EngineCall.kind_of_abortReason ended).symm.trans interrupted
      · exact List.getElem?_eq_getElem inRange

end HeededAt

/-! ## Runs -/

namespace Runner

variable (r : Runner κ)

/-- Every run heeds the requests to stop that are made before its end. -/
theorem run_heeded (request : RunRequest ε) (collaborators : κ) :
    request.Heeded r collaborators (r.run request.engine request.scenario request.state
      collaborators ⟨request.raised⟩) := by
  obtain ⟨traces, h, heeded⟩ := r.run_traces_keeping request.engine request.scenario request.state
    (HeededAt.invariant r request.engine request.scenario _) collaborators ⟨request.raised⟩
    (HeededAt.start request.state collaborators ⟨request.raised⟩)
  let report := (r.run request.engine request.scenario request.state collaborators
    ⟨request.raised⟩).report
  have abort : report.abort = (r.recorded.finalState request.engine.recorded request.scenario
      (request.state, []) (collaborators, []) ⟨request.raised⟩).abort :=
    congrArg (·.report.abort) (run_view request.scenario request.engine.isViewOf_recorded
      r.isViewOf_recorded (request.state, []) (collaborators, []) ⟨request.raised⟩)
  have length : report.results.length = traces.length := by rw [h.results, List.length_map]
  refine ⟨rfl, rfl, traces, h, ?_, fun reason stopped => heeded.caused reason (abort ▸ stopped)⟩
  intro accepted number positive planned asked first unstopped
  have complete : report.abort = none → traces.length = request.scenario.tests.length := by
    intro unended
    exact length.symm.trans ((r.runShape_connected request.engine request.scenario
      accepted).complete unended)
  have last : traces.length = number :=
    heeded.length_eq_of_asked abort complete positive planned asked first unstopped
  subst last
  exact ⟨length, heeded.abort_of_asked abort positive asked unstopped⟩

/-- Every run of a session heeds the requests to stop that were made since the run before it
returned, and no others. -/
theorem session_heeded (requests : List (RunRequest ε)) (collaborators : κ) :
    SessionHeeded r collaborators requests (r.session requests collaborators .new) := by
  induction requests generalizing collaborators with
  | nil => exact .nil
  | cons request rest ih =>
      have fresh : Interrupt.new.raiseIf request.raised = ⟨request.raised⟩ := by
        cases request.raised <;> rfl
      rw [session, fresh]
      exact .cons (r.run_heeded request collaborators) (ih _)

/-- A request during the first cleanup of a run ends that run; a request after it has returned ends
the next run after its first test, and the run after that is not concerned. -/
example :
    let scenario : Scenario := ⟨"regression", [⟨"people",
      [.ofSql "people" "first" "SELECT 1", .ofSql "people" "second" "SELECT 2"]⟩]⟩
    let engine : Engine Bool :=
      { execute := fun _ s => ⟨.ok (.table (.update 1)), s, false⟩
        cleanup := fun raises => ⟨.ok (), raises, raises⟩
        elapsed := fun _ => ⟨0⟩, now := fun _ => ⟨0⟩ }
    let r : Runner Unit := .ofHandler .execute (.ofSink { report := fun _ _ s => ⟨.ok (), s⟩ })
    (r.session [⟨engine, scenario, true, false⟩, ⟨engine, scenario, false, true⟩,
        ⟨engine, scenario, false, false⟩] () .new).map
      (fun run => (run.report.results.length, run.report.abort)) =
        [(1, some wasInterrupted), (1, some wasInterrupted), (2, none)] := by
  decide +kernel

end Runner
end QueryRegression
