import QueryRegression.Proofs.RunView

/-!
# The calls of an engine

What an engine sees of a run is the list of calls that it receives. `Engine.recorded` keeps this
list beside the state of any engine, and `Runner.calls` is the list at the end of a run.

* `Runner.run_recorded`: recording changes nothing in a run, so what is proved of runs with a
  recording engine holds of all runs.
-/

namespace QueryRegression

instance decidableEqExcept {α β : Type} [DecidableEq α] [DecidableEq β] :
    DecidableEq (Except α β)
  | .ok a, .ok b => decidable_of_iff (a = b) ⟨congrArg _, Except.ok.inj⟩
  | .error a, .error b => decidable_of_iff (a = b) ⟨congrArg _, Except.error.inj⟩
  | .ok _, .error _ => isFalse nofun
  | .error _, .ok _ => isFalse nofun

deriving instance DecidableEq for LargeObject, Value, Table, Outcome

/-- A call that an engine received: what it was asked, what it answered, and whether the run was
asked to stop meanwhile. -/
inductive EngineCall where
  | ping (answer : Except Error Unit) (raised : Bool)
  | execute (statement : Statement) (answer : Except Error Outcome) (raised : Bool)
  | cleanup (answer : Except Error Unit) (raised : Bool)
deriving DecidableEq

/-- Whether the run was asked to stop during a call. -/
def EngineCall.raised : EngineCall → Bool
  | .ping _ raised | .execute _ _ raised | .cleanup _ raised => raised

variable {ε κ : Type}

/-- The engine with a list of the calls that it received. -/
def Engine.recorded (engine : Engine ε) : Engine (ε × List EngineCall) where
  ping s :=
    let call := engine.ping s.1
    ⟨call.answer, (call.state, s.2 ++ [.ping call.answer call.raised]), call.raised⟩
  execute statement s :=
    let call := engine.execute statement s.1
    ⟨call.answer, (call.state, s.2 ++ [.execute statement call.answer call.raised]), call.raised⟩
  cleanup s :=
    let call := engine.cleanup s.1
    ⟨call.answer, (call.state, s.2 ++ [.cleanup call.answer call.raised]), call.raised⟩
  elapsed s := engine.elapsed s.1
  now s := engine.now s.1

/-- Recording calls does not change what an engine answers. -/
theorem Engine.isViewOf_recorded (engine : Engine ε) : engine.IsViewOf engine.recorded Prod.fst :=
  ⟨fun _ => rfl, fun _ _ => rfl, fun _ => rfl, fun _ => rfl, fun _ => rfl⟩

namespace Runner

variable (r : Runner κ) (engine : Engine ε) (scenario : Scenario)

/-- The calls that the engine receives in a run, in their order. -/
def calls (state : ε) (collaborators : κ) (interrupt : Interrupt) : List EngineCall :=
  (r.run engine.recorded scenario (state, []) collaborators interrupt).engine.2

/-- Recording the calls of an engine changes nothing in a run. -/
theorem run_recorded (state : ε) (collaborators : κ) (interrupt : Interrupt) :
    let run := r.run engine.recorded scenario (state, []) collaborators interrupt
    r.run engine scenario state collaborators interrupt =
      ⟨run.report, run.engine.1, run.collaborators, run.interrupt, run.log⟩ :=
  run_view scenario engine.isViewOf_recorded (.refl r) (state, []) collaborators interrupt

end Runner
end QueryRegression
