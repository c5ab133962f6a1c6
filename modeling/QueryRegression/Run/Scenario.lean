import QueryRegression.Test

/-!
# Scenarios

A scenario is a list of query sets, and a query set is a list of tests; they are run in order.
-/

namespace QueryRegression

/-- Tests under a common name. -/
structure QuerySet where
  name : String
  tests : List QueryTest
deriving DecidableEq

/-- Query sets that are run together. -/
structure Scenario where
  name : String
  querySets : List QuerySet
deriving DecidableEq

namespace Scenario

/-- The scenario with one more query set. -/
def addQuerySet (s : Scenario) (set : QuerySet) : Scenario :=
  { s with querySets := s.querySets ++ [set] }

/-- All tests in order. -/
def tests (s : Scenario) : List QueryTest := s.querySets.flatMap (·.tests)

/-- The number of tests. -/
def totalQueries (s : Scenario) : Nat := s.tests.length

end Scenario
end QueryRegression
