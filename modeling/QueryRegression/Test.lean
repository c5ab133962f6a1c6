import QueryRegression.Text.LowerCase
import QueryRegression.Text.Search

/-!
# Tests

A test is one or more statements under the name of a query in a query set. A statement may be run
several times and may declare how many rows it returns or changes.
-/

namespace QueryRegression

/-- Whether a query fixes the order of its rows: the first ordering clause in it does not stand at
its very beginning. -/
def isOrderedSql (sql : String) : Bool :=
  match Text.firstIndex? " order by ".toList (Text.lowercase sql).toList with
  | some index => 0 < index
  | none => false

/-- A statement of a test. -/
structure Statement where
  sql : String
  /-- How many times the statement is run. -/
  runTimes : Nat
  /-- The declared number of rows. -/
  rowCount : Option Nat
  /-- The declared number of rows changed. -/
  updateCount : Option Nat
deriving DecidableEq

namespace Statement

/-- A statement that is run once and declares nothing. -/
def ofSql (sql : String) : Statement := ⟨sql, 1, none, none⟩

/-- Whether the statement fixes the order of its rows. -/
def isOrdered (s : Statement) : Bool := isOrderedSql s.sql

end Statement

/-- A named test. -/
structure QueryTest where
  querySet : String
  query : String
  statements : List Statement
deriving DecidableEq

namespace QueryTest

/-- A test of one statement. -/
def ofSql (querySet query sql : String) : QueryTest := ⟨querySet, query, [.ofSql sql]⟩

/-- The statements in one line. -/
def sqlText (t : QueryTest) : String := "; ".intercalate (t.statements.map (·.sql))

/-- Whether only declared counts can be checked: there are several statements, or one that runs
more than once or declares its number of rows. -/
def countsOnly (t : QueryTest) : Bool :=
  1 < t.statements.length || t.statements.any fun s => 1 < s.runTimes || s.rowCount.isSome

/-- Whether the first statement fixes the order of its rows. -/
def isOrdered (t : QueryTest) : Bool := t.statements.head?.any Statement.isOrdered

end QueryTest
end QueryRegression
