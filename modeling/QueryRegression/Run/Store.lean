import QueryRegression.Run.Collaborators

/-!
# Stores of expected outcomes

A store keeps one outcome for each query of each query set. It is both a source of expected
outcomes and a destination for them.
-/

namespace QueryRegression

/-- Expected outcomes by query set and query, each pair at most once. -/
structure OutcomeStore where
  entries : List ((String × String) × Outcome)

namespace OutcomeStore

/-- The store without outcomes. -/
def empty : OutcomeStore := ⟨[]⟩

/-- The number of outcomes. -/
def size (s : OutcomeStore) : Nat := s.entries.length

/-- Whether there is no outcome. -/
def isEmpty (s : OutcomeStore) : Bool := s.entries.isEmpty

/-- Replaces the entry of a key, or puts a new one at the end. -/
def insertEntry (key : String × String) (outcome : Outcome) :
    List ((String × String) × Outcome) → List ((String × String) × Outcome)
  | [] => [(key, outcome)]
  | entry :: rest =>
    if entry.1 = key then (key, outcome) :: rest else entry :: insertEntry key outcome rest

/-- The store with an outcome, which takes the place of any before. -/
def insert (s : OutcomeStore) (querySet query : String) (outcome : Outcome) : OutcomeStore :=
  ⟨insertEntry (querySet, query) outcome s.entries⟩

/-- The outcome of a query, if there is one. -/
def find? (s : OutcomeStore) (querySet query : String) : Option Outcome :=
  s.entries.lookup (querySet, query)

/-- The expected outcome of a test; that there is none is an error. -/
def expected (s : OutcomeStore) (test : QueryTest) : Except Error Outcome :=
  match s.find? test.querySet test.query with
  | some outcome => .ok outcome
  | none => .error (.configuration (.nothingExpected test.querySet test.query))

/-- The store with the outcome of a test. -/
def record (s : OutcomeStore) (test : QueryTest) (outcome : Outcome) : OutcomeStore :=
  s.insert test.querySet test.query outcome

/-- The store as a source of expected outcomes. -/
def reader : Reader OutcomeStore := fun test s => ⟨s.expected test, s⟩

/-- The store as a destination for expected outcomes. -/
def writer : Writer OutcomeStore := fun test outcome s => ⟨.ok (), s.record test outcome⟩

end OutcomeStore
end QueryRegression
