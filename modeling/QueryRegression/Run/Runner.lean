import QueryRegression.Run.Engine
import QueryRegression.Run.Handler
import QueryRegression.Run.Interrupt
import QueryRegression.Run.Report
import QueryRegression.Run.Scenario

/-!
# Runs

A runner takes the tests of a scenario through an engine, one after the other. The time budget is
checked before each test and the interrupt after it; neither stops a statement that is running. A
lost connection stops the run as well. Every other fault concerns one test only.

`runTest` runs the statements of one test and hands its result to the handler; `runTests` and
`runSets` go through the tests until the run is stopped; `run` puts the report together.
-/

namespace QueryRegression

/-- How scenarios are run. -/
structure Runner (κ : Type) where
  handler : Handler κ
  /-- Takes the failures of tests of which only the declared counts are checked. -/
  sink : Sink κ
  /-- The time allowed for one query, if the time of a run is limited. -/
  timeForOneQuery : Option Span

/-- The state of a run. -/
structure RunState (ε κ : Type) where
  engine : ε
  collaborators : κ
  interrupt : Interrupt
  summary : Summary
  /-- The results of the tests that were run, in their order. -/
  results : List TestResult
  log : List LogLine
  /-- Why the run has to stop. -/
  abort : Option AbortReason

/-- The state of one test. -/
structure TestState (ε : Type) where
  engine : ε
  interrupt : Interrupt
  result : TestResult
  abort : Option AbortReason

/-- All that is left of a run. -/
structure Run (ε κ : Type) where
  report : ScenarioReport
  engine : ε
  collaborators : κ
  interrupt : Interrupt
  log : List LogLine

namespace Runner

variable {ε κ : Type}

/-- The runner of a handler, without a limit of time. -/
def ofHandler (handler : Handler κ) (c : Collaborators κ) : Runner κ := ⟨handler, c.sink, none⟩

/-- The runner that settings ask for. An allowance of zero is none. -/
def ofSettings (s : Settings) (c : Collaborators κ) : Except Error (Runner κ) := do
  let handler ← Handler.ofSettings s c
  return { ofHandler handler c with
    timeForOneQuery := (s.timeForOneQuery.filter (0 < ·)).map Span.ofMilliseconds }

/-- The runner with a time allowed for one query. -/
def withTimeForOneQuery (r : Runner κ) (allowance : Span) : Runner κ :=
  { r with timeForOneQuery := some allowance }

/-- The mode of scenarios. -/
def mode (r : Runner κ) : ResultMode := r.handler.mode

/-! ## One test -/

/-- Whether a test is run in another mode than its scenario: where only counts can be checked, they
are, whatever the mode. -/
def overridesMode (r : Runner κ) (test : QueryTest) : Bool :=
  test.countsOnly && r.mode != .counts

/-- The handler of a test. -/
def handlerFor (r : Runner κ) (test : QueryTest) : Handler κ :=
  if r.overridesMode test then .counts r.sink else r.handler

/-- The reason to stop after an error in the execution of a statement, if it is one. -/
def abortOf (e : Error) : Option AbortReason :=
  if e.abortsScenario then some ⟨.connection, e.message⟩ else none

/-- The result after an error in the execution of a statement. -/
def failExecution (result : TestResult) (e : Error) : TestResult :=
  { result with outcome := none }.fail (.general .framework ("Execution failed: " ++ e.message))

/-- The result after an outcome of a statement. -/
def recordOutcome (handler : Handler κ) (statement : Statement) (result : TestResult)
    (outcome : Outcome) : TestResult :=
  match handler.checkExecution statement outcome with
  | none => result.record outcome
  | some failure => (result.record outcome).fail failure

/-- Runs a statement once. -/
def executeOnce (engine : Engine ε) (handler : Handler κ) (statement : Statement)
    (s : TestState ε) : TestState ε :=
  let call := engine.execute statement s.engine
  let interrupt := s.interrupt.raiseIf call.raised
  match call.answer with
  | .ok outcome =>
    ⟨call.state, interrupt, recordOutcome handler statement s.result outcome, s.abort⟩
  | .error e => ⟨call.state, interrupt, failExecution s.result e, abortOf e⟩

/-- Runs a statement so many times, up to the first failure. Tells whether all went well. -/
def executeTimes (engine : Engine ε) (handler : Handler κ) (statement : Statement) :
    Nat → TestState ε → Bool × TestState ε
  | 0, s => (true, s)
  | n + 1, s =>
    let s := executeOnce engine handler statement s
    if s.result.isSuccess then executeTimes engine handler statement n s else (false, s)

/-- Runs statements up to the first failure. -/
def executeAll (engine : Engine ε) (handler : Handler κ) :
    List Statement → TestState ε → TestState ε
  | [], s => s
  | statement :: rest, s =>
    let s := { s with result := { s.result with sql := statement.sql } }
    match executeTimes engine handler statement statement.runTimes s with
    | (true, s) => executeAll engine handler rest s
    | (false, s) => s

/-- A test without any execution has passed. -/
def settle (result : TestResult) : TestResult :=
  if result.status = .preRun then { result with status := .success } else result

/-- The result of a test about to be run. -/
def freshResult (r : Runner κ) (engine : Engine ε) (test : QueryTest) (s : RunState ε κ) :
    TestResult :=
  let result :=
    TestResult.fresh s!"{s.results.length + 1}" (engine.now s.engine) test r.mode
  if r.overridesMode test then { result with mode := .counts } else result

/-- The log lines at the beginning of a test. -/
def openingLines (r : Runner κ) (test : QueryTest) : List LogLine :=
  ⟨.debug, "Test: QuerySetID [" ++ test.querySet ++ " - " ++ test.query ++ "]"⟩ ::
    if r.overridesMode test then
      [⟨.info, "Overriding ResultMode to NONE for QueryID [" ++ test.query ++ "]"⟩]
    else []

/-- The log line for a handler that refused. -/
def refusalLine (test : QueryTest) (e : Error) : LogLine :=
  ⟨.error, "Handling result of " ++ test.querySet ++ ":" ++ test.query ++ " failed: " ++ e.message⟩

/-- Hands the result of a test to its handler. A handler that refuses fails the test. -/
def handleResult (handler : Handler κ) (test : QueryTest) (result : TestResult) (state : κ) :
    TestResult × κ × List LogLine :=
  match handler.handle test (settle result) state with
  | ⟨.ok _, result, state⟩ => (result, state, [])
  | ⟨.error e, result, state⟩ =>
    (result.fail (.general .framework e.message), state, [refusalLine test e])

/-- Runs one test and adds its result. -/
def runTest (r : Runner κ) (engine : Engine ε) (test : QueryTest) (s : RunState ε κ) :
    RunState ε κ :=
  let handler := r.handlerFor test
  let t := executeAll engine handler test.statements
    ⟨s.engine, s.interrupt, r.freshResult engine test s, none⟩
  let (result, collaborators, lines) := handleResult handler test t.result s.collaborators
  let result := result.finish (engine.now t.engine)
  { engine := t.engine
    collaborators
    interrupt := t.interrupt
    summary := s.summary.addTest result
    results := s.results ++ [result]
    log := s.log ++ r.openingLines test ++ lines
    abort := t.abort }

/-- Releases what a test held; that this fails is only noted. -/
def cleanUp (engine : Engine ε) (test : QueryTest) (s : RunState ε κ) : RunState ε κ :=
  let call := engine.cleanup s.engine
  let s := { s with engine := call.state, interrupt := s.interrupt.raiseIf call.raised }
  match call.answer with
  | .ok _ => s
  | .error e =>
    { s with
      log := s.log ++ [⟨.warn, "Cleanup after " ++ test.querySet ++ ":" ++ test.query ++
        " failed: " ++ e.message⟩] }

/-! ## Stopping -/

/-- The reason to stop when the time budget is used up. -/
def budgetExceeded : AbortReason :=
  ⟨.timeBudgetExceeded, (Error.scenarioAborted "maximum time exceeded").message⟩

/-- The reason to stop when the run was asked to. -/
def wasInterrupted : AbortReason :=
  ⟨.interrupted, (Error.interrupted "scenario run has been interrupted").message⟩

/-- Follows a request to stop, unless the run stops for another reason. -/
def heedInterrupt (scenario : String) (s : RunState ε κ) : RunState ε κ :=
  if s.abort.isSome then s
  else
    match s.interrupt.take with
    | (true, interrupt) =>
      { s with
        interrupt
        log := s.log ++ [⟨.info, "Scenario " ++ scenario ++ " has been interrupted."⟩]
        abort := some wasInterrupted }
    | (false, interrupt) => { s with interrupt }

/-- The time that a run of so many queries may take, if it is limited. What is too long for a span
is taken for the longest one; the number of queries has 32 bits. -/
def budget (r : Runner κ) (queries : Nat) : Option Span :=
  r.timeForOneQuery.map fun allowance =>
    (allowance.times? (min queries (2 ^ 32 - 1))).getD .longest

/-- The last reading of the clock at which a test may begin in a run of so many queries that began
at the given one. There is no such limit if the clock cannot show it. -/
def deadline (r : Runner κ) (queries : Nat) (began : Span) : Option Span :=
  (r.budget queries).bind began.later?

/-- Whether a deadline has passed. -/
def isOver (engine : Engine ε) (deadline : Option Span) (s : RunState ε κ) : Bool :=
  deadline.any fun last => last.nanoseconds < (engine.elapsed s.engine).nanoseconds

/-! ## All tests -/

/-- Runs tests in order until the run has to stop. -/
def runTests (r : Runner κ) (engine : Engine ε) (scenario : Scenario) (deadline : Option Span) :
    List QueryTest → RunState ε κ → RunState ε κ
  | [], s => s
  | test :: rest, s =>
    if isOver engine deadline s then { s with abort := some budgetExceeded }
    else
      let s := heedInterrupt scenario.name (cleanUp engine test (r.runTest engine test s))
      if s.abort.isSome then s else runTests r engine scenario deadline rest s

/-- Runs a query set and closes its summary. -/
def runSet (r : Runner κ) (engine : Engine ε) (scenario : Scenario) (deadline : Option Span)
    (set : QuerySet) (s : RunState ε κ) : RunState ε κ :=
  let begun := engine.now s.engine
  let start : LogLine := ⟨.info, "Start TestResult: QuerySetID [" ++ set.name ++ "]"⟩
  let stop : LogLine := ⟨.info, "End TestResult: QuerySetID [" ++ set.name ++ "]"⟩
  let s := r.runTests engine scenario deadline set.tests { s with log := s.log ++ [start] }
  let ended := engine.now s.engine
  { s with
    summary := s.summary.closeSet set.name begun ended
    log := s.log ++ stop :: s.summary.closingLines set.name begun ended }

/-- Runs query sets in order until the run has to stop. -/
def runSets (r : Runner κ) (engine : Engine ε) (scenario : Scenario) (deadline : Option Span) :
    List QuerySet → RunState ε κ → RunState ε κ
  | [], s => s
  | set :: rest, s =>
    if s.abort.isSome then s
    else runSets r engine scenario deadline rest (r.runSet engine scenario deadline set s)

/-- The log lines at the beginning of a run. -/
def startLines (r : Runner κ) (scenario : Scenario) : List LogLine :=
  if r.timeForOneQuery.isSome then []
  else [⟨.warn, "Time for one query is not set [scenario: " ++ scenario.name ++ "]"⟩]

/-- The log lines at the end of a run. -/
def endLines (scenario : Scenario) (s : RunState ε κ) : List LogLine :=
  s.summary.totalsLine scenario.totalQueries ::
    match s.abort with
    | none => []
    | some reason => [⟨.error, "Scenario " ++ scenario.name ++ " aborted: " ++ reason.message⟩]

/-- The state after the check of the connection. A run without a connection stops. -/
def start (r : Runner κ) (engine : Engine ε) (scenario : Scenario) (state : ε)
    (collaborators : κ) (interrupt : Interrupt) : RunState ε κ :=
  let call := engine.ping state
  { engine := call.state
    collaborators
    interrupt := interrupt.raiseIf call.raised
    summary := .empty scenario.name
    results := []
    log := r.startLines scenario
    abort :=
      match call.answer with
      | .ok _ => none
      | .error e => some ⟨.connection, e.message⟩ }

/-- Runs a scenario. A request to stop does not outlast the run. -/
def run (r : Runner κ) (engine : Engine ε) (scenario : Scenario) (state : ε) (collaborators : κ)
    (interrupt : Interrupt) : Run ε κ :=
  let deadline := r.deadline scenario.totalQueries (engine.elapsed state)
  let s := r.runSets engine scenario deadline scenario.querySets
    (r.start engine scenario state collaborators interrupt)
  { report :=
      { scenario := scenario.name
        planned := scenario.totalQueries
        summary := s.summary
        results := s.results
        abort := s.abort
        started := engine.now state
        finished := engine.now s.engine }
    engine := s.engine
    collaborators := s.collaborators
    interrupt := s.interrupt.clear
    log := s.log ++ endLines scenario s }

end Runner
end QueryRegression
