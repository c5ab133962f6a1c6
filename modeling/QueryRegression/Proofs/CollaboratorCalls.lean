import QueryRegression.Proofs.EngineCalls

/-!
# The calls of collaborators

What the collaborators see of a run is the list of calls that they receive: questions for expected
outcomes, outcomes to be written, and failures to be reported. `Runner.recorded` keeps this list
beside their state, and `Runner.collaboratorCalls` is the list at the end of a run.

* `Runner.isViewOf_recorded`: recording changes nothing in a run.
* `Handling`: all that can happen at the end of a test, with the calls that are made;
  `Runner.handleResult_handling` says that nothing else does.
-/

namespace QueryRegression

deriving instance DecidableEq for TestResult

/-- A call that a collaborator received: what it was asked, and what it answered. -/
inductive CollaboratorCall where
  | expect (test : QueryTest) (answer : Except Error Outcome)
  | write (test : QueryTest) (outcome : Outcome) (answer : Except Error Unit)
  | report (result : TestResult) (failures : List Failure) (answer : Except Error Unit)
  | reportAll (result : TestResult) (failures : List Failure) (answer : Except Error Unit)
deriving DecidableEq

variable {ε κ : Type}

/-! ## Recording -/

/-- The source with a list of the calls that the collaborators received. -/
def Reader.recorded (reader : Reader κ) : Reader (κ × List CollaboratorCall) := fun test s =>
  let reply := reader test s.1
  ⟨reply.answer, reply.state, s.2 ++ [.expect test reply.answer]⟩

/-- The destination with a list of the calls that the collaborators received. -/
def Writer.recorded (writer : Writer κ) : Writer (κ × List CollaboratorCall) :=
  fun test outcome s =>
    let reply := writer test outcome s.1
    ⟨reply.answer, reply.state, s.2 ++ [.write test outcome reply.answer]⟩

/-- The sink with a list of the calls that the collaborators received. -/
def Sink.recorded (sink : Sink κ) : Sink (κ × List CollaboratorCall) where
  report result failures s :=
    let reply := sink.report result failures s.1
    ⟨reply.answer, reply.state, s.2 ++ [.report result failures reply.answer]⟩
  reportAll result failures s :=
    let reply := sink.reportAll result failures s.1
    ⟨reply.answer, reply.state, s.2 ++ [.reportAll result failures reply.answer]⟩

/-- The handler with a list of the calls that its collaborators received. -/
def Handler.recorded : Handler κ → Handler (κ × List CollaboratorCall)
  | .compare policy reader sink => .compare policy reader.recorded sink.recorded
  | .counts sink => .counts sink.recorded
  | .generate writer => .generate writer.recorded
  | .execute => .execute

/-- The runner with a list of the calls that its collaborators received. -/
def Runner.recorded (r : Runner κ) : Runner (κ × List CollaboratorCall) :=
  ⟨r.handler.recorded, r.sink.recorded, r.timeForOneQuery⟩

/-! ## The end of a test -/

/-- The result of a test, unless a collaborator refused: that fails the test. -/
def TestResult.unlessRefused (r : TestResult) : Except Error Unit → TestResult
  | .ok _ => r
  | .error e => r.fail (.general .framework e.message)

/-- What a sink is told of a result, and what it answers. -/
inductive Told (sink : Sink κ) (result : TestResult) :
    List CollaboratorCall → Except Error Unit → Prop
  | nothing : result.failures = [] → Told sink result [] (.ok ())
  | refused {state e} : result.failures ≠ [] →
      (sink.report result result.failures state).answer = .error e →
      Told sink result [.report result result.failures (.error e)] (.error e)
  | one {state} : result.failures.length = 1 →
      (sink.report result result.failures state).answer = .ok () →
      Told sink result [.report result result.failures (.ok ())] (.ok ())
  | several {state state' answer} : 1 < result.failures.length →
      (sink.report result result.failures state).answer = .ok () →
      (sink.reportAll result result.failures state').answer = answer →
      Told sink result [.report result result.failures (.ok ()),
        .reportAll result result.failures answer] answer

/-- What a handler makes of the result of a test, and the calls that it makes. -/
inductive Handling (test : QueryTest) (before : TestResult) :
    Handler κ → List CollaboratorCall → TestResult → Prop
  /-- Without an outcome there is nothing to compare. -/
  | unanswered {policy reader sink told answer} : before.outcome = none →
      Told sink before told answer →
      Handling test before (.compare policy reader sink) told (before.unlessRefused answer)
  | unexpected {policy reader sink actual state e} : before.outcome = some actual →
      (reader test state).answer = .error e →
      Handling test before (.compare policy reader sink) [.expect test (.error e)]
        (before.unlessRefused (.error e))
  | incomparable {policy reader sink actual state expected e} : before.outcome = some actual →
      (reader test state).answer = .ok expected →
      policy.compare actual expected test.isOrdered = .error e →
      Handling test before (.compare policy reader sink) [.expect test (.ok expected)]
        (before.unlessRefused (.error e))
  | matched {policy reader sink actual state expected comparison} :
      before.outcome = some actual → (reader test state).answer = .ok expected →
      policy.compare actual expected test.isOrdered = .ok comparison →
      comparison.verdict = .pass →
      Handling test before (.compare policy reader sink) [.expect test (.ok expected)]
        (before.applyComparison comparison)
  | mismatched {policy reader sink actual state expected comparison told answer} :
      before.outcome = some actual → (reader test state).answer = .ok expected →
      policy.compare actual expected test.isOrdered = .ok comparison →
      comparison.verdict ≠ .pass → Told sink (before.applyComparison comparison) told answer →
      Handling test before (.compare policy reader sink) (.expect test (.ok expected) :: told)
        ((before.applyComparison comparison).unlessRefused answer)
  | counted {sink} : before.isSuccess = true → Handling test before (.counts sink) [] before
  | miscounted {sink told answer} : before.isSuccess = false →
      Told sink (Handler.withMessageFailure before) told answer →
      Handling test before (.counts sink) told
        ((Handler.withMessageFailure before).unlessRefused answer)
  | unwritten {writer} : before.outcome = none → Handling test before (.generate writer) [] before
  | written {writer outcome state answer} : before.outcome = some outcome →
      (writer test outcome state).answer = answer →
      Handling test before (.generate writer) [.write test outcome answer]
        (before.unlessRefused answer)
  | executed : Handling test before .execute [] before

/-- Where nothing failed, a sink is told nothing, and so it does not refuse. -/
theorem Told.eq_nil {sink : Sink κ} {result : TestResult} {calls : List CollaboratorCall}
    {answer : Except Error Unit} (told : Told sink result calls answer)
    (empty : result.failures = []) : calls = [] ∧ answer = .ok () := by
  cases told with
  | nothing => exact ⟨rfl, rfl⟩
  | refused some => exact absurd empty some
  | one one => rw [empty] at one; cases one
  | several several => rw [empty] at several; cases several

/-! ### What is kept of a result -/

namespace TestResult

variable (r : TestResult)

/-- The mode and the outcome are those of another result. -/
def Keeps (r before : TestResult) : Prop := r.mode = before.mode ∧ r.outcome = before.outcome

theorem unlessRefused_keeps (answer : Except Error Unit) : (r.unlessRefused answer).Keeps r := by
  cases answer <;> exact ⟨rfl, rfl⟩

theorem applyComparison_keeps (c : Comparison) : (r.applyComparison c).Keeps r := by
  have verdict : (r.applyVerdict c).Keeps r := by
    unfold applyVerdict
    split <;> exact ⟨rfl, rfl⟩
  unfold applyComparison
  split
  · exact verdict
  · exact verdict

theorem withMessageFailure_keeps : (Handler.withMessageFailure r).Keeps r := by
  unfold Handler.withMessageFailure
  split <;> exact ⟨rfl, rfl⟩

/-- A test passes only if no one refused. -/
theorem isSuccess_unlessRefused (answer : Except Error Unit) :
    (r.unlessRefused answer).isSuccess = (answer.isOk && r.isSuccess) := by
  cases answer <;> rfl

theorem isSuccess_withMessageFailure : (Handler.withMessageFailure r).isSuccess = r.isSuccess := by
  unfold Handler.withMessageFailure
  split <;> rfl

variable {r}

theorem Keeps.trans {before first : TestResult} (h : r.Keeps before) (h' : before.Keeps first) :
    r.Keeps first :=
  ⟨h.1.trans h'.1, h.2.trans h'.2⟩

end TestResult

/-- No handler changes the mode in which a test was run, nor its outcome. -/
theorem Handling.keeps {test : QueryTest} {before result : TestResult} {handler : Handler κ}
    {asked : List CollaboratorCall} (handling : Handling test before handler asked result) :
    result.Keeps before := by
  cases handling with
  | unanswered | unexpected | incomparable | written => exact before.unlessRefused_keeps _
  | matched => exact before.applyComparison_keeps _
  | mismatched => exact (TestResult.unlessRefused_keeps _ _).trans (before.applyComparison_keeps _)
  | miscounted => exact (TestResult.unlessRefused_keeps _ _).trans before.withMessageFailure_keeps
  | counted | unwritten | executed => exact ⟨rfl, rfl⟩

/-! ### Recording changes nothing -/

theorem Verdict.isPass_iff {verdict : Verdict} : verdict.isPass = true ↔ verdict = .pass := by
  cases verdict with
  | pass => exact ⟨fun _ => rfl, fun _ => rfl⟩
  | failed failure => exact ⟨nofun, nofun⟩
  | multiFailed log => exact ⟨nofun, nofun⟩

/-- Recording changes nothing in what a sink is told of a result, and shows it. -/
theorem Handler.report_recorded (sink : Sink κ) (result : TestResult)
    (s : κ × List CollaboratorCall) :
    report sink result s.1 = (report sink.recorded result s).view Prod.fst ∧
      ∃ told, (report sink.recorded result s).state.2 = s.2 ++ told ∧
        Told sink result told (report sink.recorded result s).answer := by
  unfold report Sink.take
  by_cases none : result.failures = []
  · simp only [if_pos (List.isEmpty_iff.mpr none)]
    exact ⟨rfl, [], (List.append_nil _).symm, .nothing none⟩
  · simp only [if_neg (mt List.isEmpty_iff.mp none), Sink.recorded]
    cases reply : sink.report result result.failures s.1 with
    | mk answer left =>
        have answered : (sink.report result result.failures s.1).answer = answer := by rw [reply]
        cases answer with
        | error e => exact ⟨rfl, _, rfl, .refused none answered⟩
        | ok _ =>
            by_cases several : 1 < result.failures.length
            · simp only [if_pos several, List.append_assoc]
              exact ⟨rfl, _, rfl, .several several answered rfl⟩
            · have one : result.failures.length = 1 := by
                have := List.length_pos_iff.mpr none
                omega
              simp only [if_neg several]
              exact ⟨rfl, _, rfl, .one one answered⟩

/-- Recording changes nothing in what a handler does at the end of a test, and shows it. -/
theorem Handler.handle_recorded (handler : Handler κ) (test : QueryTest) (result : TestResult)
    (s : κ × List CollaboratorCall) :
    handler.handle test result s.1 = (handler.recorded.handle test result s).view Prod.fst ∧
      ∃ asked, (handler.recorded.handle test result s).state.2 = s.2 ++ asked ∧
        Handling test result handler asked
          ((handler.recorded.handle test result s).result.unlessRefused
            (handler.recorded.handle test result s).answer) := by
  cases handler with
  | execute => exact ⟨rfl, [], (List.append_nil _).symm, .executed⟩
  | generate writer =>
      simp only [handle, recorded, handleGenerate, Writer.recorded]
      cases outcome : result.outcome with
      | none => exact ⟨rfl, [], (List.append_nil _).symm, .unwritten outcome⟩
      | some actual => exact ⟨rfl, _, rfl, .written outcome rfl⟩
  | counts sink =>
      simp only [handle, recorded, handleCounts]
      cases passed : result.isSuccess with
      | true => exact ⟨rfl, [], (List.append_nil _).symm, .counted passed⟩
      | false =>
          obtain ⟨view, told, received, shape⟩ :=
            report_recorded sink (withMessageFailure result) s
          exact ⟨view, told, received, .miscounted passed shape⟩
  | compare policy reader sink =>
      simp only [handle, recorded, handleCompare, Reader.recorded]
      cases outcome : result.outcome with
      | none =>
          obtain ⟨view, told, received, shape⟩ := report_recorded sink result s
          exact ⟨view, told, received, .unanswered outcome shape⟩
      | some actual =>
          cases reply : reader test s.1 with
          | mk answer left =>
              have answered : (reader test s.1).answer = answer := by rw [reply]
              cases answer with
              | error e => exact ⟨rfl, _, rfl, .unexpected outcome answered⟩
              | ok expected =>
                  dsimp only
                  cases compared : policy.compare actual expected test.isOrdered with
                  | error e => exact ⟨rfl, _, rfl, .incomparable outcome answered compared⟩
                  | ok comparison =>
                      dsimp only
                      by_cases pass : comparison.verdict.isPass = true
                      · simp only [if_pos pass]
                        exact ⟨rfl, _, rfl,
                          .matched outcome answered compared (Verdict.isPass_iff.mp pass)⟩
                      · simp only [if_neg pass]
                        obtain ⟨view, told, received, shape⟩ :=
                          report_recorded sink (result.applyComparison comparison)
                            (left, s.2 ++ [.expect test (.ok expected)])
                        refine ⟨view, .expect test (.ok expected) :: told, ?_,
                          .mismatched outcome answered compared (mt Verdict.isPass_iff.mpr pass)
                            shape⟩
                        rw [received, List.append_assoc]
                        rfl

namespace Runner

variable (r : Runner κ)

/-- Recording the calls of collaborators does not change what they do. -/
theorem isViewOf_recorded : r.IsViewOf r.recorded Prod.fst := by
  have same : ∀ handler : Handler κ, handler.IsViewOf handler.recorded Prod.fst := fun handler =>
    ⟨by cases handler <;> rfl, fun _ _ => by cases handler <;> rfl,
      fun test result s => (handler.handle_recorded test result s).1⟩
  exact ⟨same r.handler, same (.counts r.sink), rfl⟩

theorem handlerFor_recorded (test : QueryTest) :
    r.recorded.handlerFor test = (r.handlerFor test).recorded := by
  unfold handlerFor
  rw [← r.isViewOf_recorded.overridesMode]
  split <;> rfl

/-- The calls that the collaborators receive in a run, in their order. -/
def collaboratorCalls (engine : Engine ε) (scenario : Scenario) (state : ε) (collaborators : κ)
    (interrupt : Interrupt) : List CollaboratorCall :=
  (r.recorded.run engine scenario state (collaborators, []) interrupt).collaborators.2

/-- What a handler makes of a result that is settled, and the calls that it makes. -/
theorem handleResult_handling (handler : Handler κ) (test : QueryTest) (result : TestResult)
    (s : κ × List CollaboratorCall) :
    ∃ asked, (handleResult handler.recorded test result s).2.1.2 = s.2 ++ asked ∧
      Handling test (settle result) handler asked
        (handleResult handler.recorded test result s).1 := by
  obtain ⟨-, asked, received, handling⟩ := handler.handle_recorded test (settle result) s
  refine ⟨asked, ?_, ?_⟩
  · unfold handleResult
    split
    next went => rw [went] at received; exact received
    next went => rw [went] at received; exact received
  · unfold handleResult
    split
    next went => rw [went] at handling; exact handling
    next went => rw [went] at handling; exact handling

end Runner
end QueryRegression
