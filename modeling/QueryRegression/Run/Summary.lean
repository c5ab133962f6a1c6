import QueryRegression.Number.Binary.Text
import QueryRegression.Run.Log

/-!
# Summaries

A summary counts the results of a scenario for every query set, in the order in which the sets
first occur. Closing a set notes the time it took.
-/

namespace QueryRegression

/-- The percentage of `passed` in `total`; zero if there is nothing to pass. -/
def successRate (passed total : Nat) : Binary64 :=
  if 0 < total then ((Binary.ofNat passed).div (.ofNat total)).mul (.ofNat 100) else .zero

/-- The counts of one query set. -/
structure SetSummary where
  querySet : String
  total : Nat
  passed : Nat
  failed : Nat
  expectedExceptions : Nat
  timeExceeded : Nat
  /-- Milliseconds from the beginning of the set to its end. -/
  elapsed : Nat
  /-- The queries that did not pass. -/
  failedQueries : List String
deriving DecidableEq

namespace SetSummary

/-- The summary of a set without results. -/
def empty (querySet : String) : SetSummary := ⟨querySet, 0, 0, 0, 0, 0, 0, []⟩

/-- The summary with one more result. -/
def add (s : SetSummary) (result : TestResult) : SetSummary :=
  let s := { s with total := s.total + 1 }
  match result.status with
  | .success => { s with passed := s.passed + 1 }
  | .expectedException =>
    { s with passed := s.passed + 1, expectedExceptions := s.expectedExceptions + 1 }
  | .timeExceeded =>
    { s with
      failed := s.failed + 1
      timeExceeded := s.timeExceeded + 1
      failedQueries := s.failedQueries ++ [result.query] }
  | .exception | .preRun =>
    { s with failed := s.failed + 1, failedQueries := s.failedQueries ++ [result.query] }

/-- The percentage of results that passed. -/
def successRate (s : SetSummary) : Binary64 := QueryRegression.successRate s.passed s.total

/-- The log lines at the end of a set that took the given time. -/
def closingLines (s : SetSummary) (elapsed : Span) : List LogLine :=
  ⟨.info, "Query set [" ++ s.querySet ++
    s!"]: {s.total} tests, {s.passed} passed, {s.failed} failed, " ++
    s!"{s.expectedExceptions} expected exceptions, {s.timeExceeded} over time (" ++
    elapsed.toText ++ ")"⟩ ::
    if s.failedQueries.isEmpty then []
    else [⟨.info, "  failed queries: " ++ ", ".intercalate s.failedQueries⟩]

end SetSummary

/-- The counts of a scenario. -/
structure Summary where
  scenario : String
  sets : List SetSummary
deriving DecidableEq

namespace Summary

/-- The summary of a scenario without results. -/
def empty (scenario : String) : Summary := ⟨scenario, []⟩

/-- Changes the first summary of a query set, or that of an empty set put at the end. -/
def updateSets (querySet : String) (change : SetSummary → SetSummary) :
    List SetSummary → List SetSummary
  | [] => [change (.empty querySet)]
  | s :: rest =>
    if s.querySet = querySet then change s :: rest else s :: updateSets querySet change rest

/-- The summary with one more result. -/
def addTest (s : Summary) (result : TestResult) : Summary :=
  { s with sets := updateSets result.querySet (·.add result) s.sets }

/-- The summary of a query set; that of an empty set, if it did not occur. -/
def setOf (s : Summary) (querySet : String) : SetSummary :=
  (s.sets.find? (·.querySet == querySet)).getD (.empty querySet)

/-- Notes the time of a query set, in place of any noted before. -/
def closeSet (s : Summary) (querySet : String) (begun ended : Instant) : Summary :=
  let elapsed := (begun.elapsedTo ended).milliseconds
  { s with sets := updateSets querySet (fun set => { set with elapsed := elapsed }) s.sets }

/-- The log lines at the end of a query set. -/
def closingLines (s : Summary) (querySet : String) (begun ended : Instant) : List LogLine :=
  (s.setOf querySet).closingLines (begun.elapsedTo ended)

/-- The sum of a count over all query sets. -/
def sumOf (s : Summary) (count : SetSummary → Nat) : Nat :=
  s.sets.foldr (fun set sum => count set + sum) 0

/-- The number of results. -/
def total (s : Summary) : Nat := s.sumOf (·.total)

/-- The number of results that passed. -/
def passed (s : Summary) : Nat := s.sumOf (·.passed)

/-- The number of results that did not pass. -/
def failed (s : Summary) : Nat := s.sumOf (·.failed)

/-- The number of results that came too late. -/
def timeExceeded (s : Summary) : Nat := s.sumOf (·.timeExceeded)

/-- The milliseconds of all query sets. -/
def elapsed (s : Summary) : Nat := s.sumOf (·.elapsed)

/-- The percentage of results that passed. -/
def successRate (s : Summary) : Binary64 := QueryRegression.successRate s.passed s.total

/-- The log line at the end of a scenario of so many planned queries. -/
def totalsLine (s : Summary) (planned : Nat) : LogLine :=
  ⟨.info, "Scenario [" ++ s.scenario ++
    s!"] totals: {s.total} of {planned} planned queries run, {s.passed} passed, " ++
    s!"{s.failed} failed (" ++ s.successRate.renderFixed 1 ++ "%) in " ++
    (Span.ofMilliseconds s.elapsed).toText⟩

end Summary
end QueryRegression
