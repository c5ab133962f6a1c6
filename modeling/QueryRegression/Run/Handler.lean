import QueryRegression.Policy.Settings
import QueryRegression.Run.Collaborators
import QueryRegression.Test.Counts

/-!
# Handlers

What is done with the outcomes of a test in each mode: after every execution of a statement
(`checkExecution`), and at the end of the test (`handle`).
-/

namespace QueryRegression

/-- A mode with all that it needs. -/
inductive Handler (κ : Type) where
  | compare (policy : Policy) (reader : Reader κ) (sink : Sink κ)
  | counts (sink : Sink κ)
  | generate (writer : Writer κ)
  | execute

/-- What the end of a test led to. -/
structure Handled (κ : Type) where
  answer : Except Error Unit
  result : TestResult
  state : κ

namespace Handler

variable {κ : Type}

/-- The mode of a handler. -/
def mode : Handler κ → ResultMode
  | .compare _ _ _ => .compare
  | .counts _ => .counts
  | .generate _ => .generate
  | .execute => .execute

/-- The handler of a mode. The collaborator that the mode needs must be there. -/
def ofMode (mode : ResultMode) (policy : Policy) (c : Collaborators κ) :
    Except Error (Handler κ) :=
  match mode with
  | .compare =>
    match c.reader with
    | some reader => .ok (.compare policy reader c.sink)
    | none => .error (.configuration .readerMissing)
  | .counts => .ok (.counts c.sink)
  | .generate =>
    match c.writer with
    | some writer => .ok (.generate writer)
    | none => .error (.configuration .writerMissing)
  | .execute => .ok .execute

/-- The mode that settings ask for; outcomes are compared if they name none. -/
def modeOfSettings (s : Settings) : Except Error ResultMode :=
  match s.resultMode.bind Text.nonBlank? with
  | none => .ok .compare
  | some name => ResultMode.ofText name

/-- The handler that settings ask for. -/
def ofSettings (s : Settings) (c : Collaborators κ) : Except Error (Handler κ) := do
  let mode ← modeOfSettings s
  let policy ← Policy.ofSettings s
  ofMode mode policy c

/-- Checks one outcome of a statement. -/
def checkExecution (h : Handler κ) (statement : Statement) (outcome : Outcome) : Option Failure :=
  match h with
  | .counts _ => statement.checkCounts outcome
  | _ => none

/-- Hands the failures of a result to a sink at the end of its test. -/
def report (sink : Sink κ) (result : TestResult) (state : κ) : Handled κ :=
  let reply := sink.take result state
  ⟨reply.answer, result, reply.state⟩

/-- Compares the outcome of a test, if there is one, with the expected outcome. -/
def handleCompare (policy : Policy) (reader : Reader κ) (sink : Sink κ) (test : QueryTest)
    (result : TestResult) (state : κ) : Handled κ :=
  match result.outcome with
  | none => report sink result state
  | some actual =>
    match reader test state with
    | ⟨.error e, state⟩ => ⟨.error e, result, state⟩
    | ⟨.ok expected, state⟩ =>
      match policy.compare actual expected test.isOrdered with
      | .error e => ⟨.error e, result, state⟩
      | .ok comparison =>
        let result := result.applyComparison comparison
        if comparison.verdict.isPass then ⟨.ok (), result, state⟩ else report sink result state

/-- The result with its message as a failure, if it has no other failure. -/
def withMessageFailure (result : TestResult) : TestResult :=
  match result.failures, result.failureMessage with
  | [], some message => { result with failures := [.general .unexpectedException message] }
  | _, _ => result

/-- Reports a test that failed. -/
def handleCounts (sink : Sink κ) (result : TestResult) (state : κ) : Handled κ :=
  if result.isSuccess then ⟨.ok (), result, state⟩
  else report sink (withMessageFailure result) state

/-- Records the outcome of a test, if there is one. -/
def handleGenerate (writer : Writer κ) (test : QueryTest) (result : TestResult) (state : κ) :
    Handled κ :=
  match result.outcome with
  | none => ⟨.ok (), result, state⟩
  | some outcome =>
    let reply := writer test outcome state
    ⟨reply.answer, result, reply.state⟩

/-- Ends a test, all of whose statements have been run. -/
def handle (h : Handler κ) (test : QueryTest) (result : TestResult) (state : κ) : Handled κ :=
  match h with
  | .compare policy reader sink => handleCompare policy reader sink test result state
  | .counts sink => handleCounts sink result state
  | .generate writer => handleGenerate writer test result state
  | .execute => ⟨.ok (), result, state⟩

end Handler
end QueryRegression
