import QueryRegression.Compare.Exception
import QueryRegression.Compare.Grid

/-!
# Comparison of outcomes

An outcome is compared with the expected one under a policy. An exception facing a table is one
failure, whichever of the two is the actual one. Two tables must be well formed; they are compared
as grids if rows are expected, and by their update counts if neither has rows. The time of a table
is checked beside its content.
-/

namespace QueryRegression

/-- What the comparison of two outcomes found. -/
structure Comparison where
  verdict : Verdict
  /-- The complaint about the time of the query, whatever the verdict. -/
  timeExceeded : Option Failure
deriving DecidableEq

namespace Comparison

/-- Whether the outcomes match and the time was kept. -/
def isPass (c : Comparison) : Bool := c.verdict.isPass && c.timeExceeded.isNone

/-- A comparison in which times do not count. -/
def ofVerdict (verdict : Verdict) : Comparison := ⟨verdict, none⟩

/-- A comparison that ends in one failure. -/
def ofFailure (kind : FailureKind) (message : String) : Comparison :=
  .ofVerdict (.failed (.general kind message))

end Comparison

namespace Policy

/-- The text of an optional update count. -/
def countText (count : Option Nat) : String := count.elim "-1" toString

/-- The complaint about an update count, in words that fit a statement as well. -/
def updateCountFailure (expected : Nat) (actual : Option Nat) : Failure :=
  .general .updateCount
    (s!"Expected update count: {expected}, actual update count: " ++ countText actual ++ ".")

/-- Compares update counts; any matches where none is expected. -/
def compareUpdateCounts (actual expected : Option Nat) : Verdict :=
  match expected with
  | none => .pass
  | some count => if actual = some count then .pass else .failed (updateCountFailure count actual)

/-- The verdict on two well-formed tables. -/
def tableVerdict? (p : Policy) (actual expected : Table) (isOrdered : Bool) :
    Option (Except Error Verdict) :=
  if expected.hasRows then do
    let rows ← IndexedRow.orderIfNeeded? actual.rows expected.rows isOrdered
    return Table.compareGrid p actual rows.1 expected rows.2
  else if actual.hasRows then
    some (.ok (.failed (.general .rowCount
      (s!"Expected results indicated no results, but actual shows {actual.rowCount} rows."))))
  else some (.ok (compareUpdateCounts actual.updateCount expected.updateCount))

/-- Checks that a table is well formed. -/
def requireWellFormed (t : Table) : Except Error Unit :=
  t.validate.mapError fun fault => .internal (.malformedTable fault)

/-- Compares two tables. -/
def compareTables? (p : Policy) (actual expected : Table) (isOrdered : Bool) :
    Option (Except Error Comparison) :=
  match requireWellFormed actual, requireWellFormed expected with
  | .error e, _ | .ok (), .error e => some (.error e)
  | .ok (), .ok () => do
    let verdict ← p.tableVerdict? actual expected isOrdered
    let excess := p.timeExcess? actual.executionTime expected.executionTime
    return verdict.map fun verdict => ⟨verdict, excess.map (.general .executionTime)⟩

/-- Compares an actual outcome with the expected one, with the given library of regular
expressions. `isOrdered` tells whether the query fixes the order of its rows. There is no answer,
not even an error, if a sort of the rows breaks off. -/
def compareUsing? (library : PatternLibrary) (p : Policy) (actual expected : Outcome)
    (isOrdered : Bool) : Option (Except Error Comparison) :=
  match actual, expected with
  | .exception a, .table _ =>
    some (.ok (.ofFailure .unexpectedException
      ("TestResult resulted in unexpected exception " ++ a.className.getD "<unknown>" ++ ": " ++
        a.message)))
  | .table a, .exception e =>
    some (.ok (.ofFailure .missingException
      (e.className.getD "" ++ s!" expected but not thrown, returned {a.rowCount} rows.")))
  | .exception a, .exception e =>
    some ((a.compareWith library e).map fun failure => .ofVerdict (failure.elim .pass .failed))
  | .table a, .table e => p.compareTables? a e isOrdered

/-- Compares an actual outcome with the expected one, with the standard library. -/
def compare? (p : Policy) (actual expected : Outcome) (isOrdered : Bool) :
    Option (Except Error Comparison) :=
  p.compareUsing? .standard actual expected isOrdered

/-- The answer of a comparison, where one is needed. A sort that breaks off ends the whole process;
an error that no comparison answers stands for that here. -/
def compare (p : Policy) (actual expected : Outcome) (isOrdered : Bool) :
    Except Error Comparison :=
  (p.compare? actual expected isOrdered).getD (.error (.internal .inconsistentOrder))

end Policy
end QueryRegression
