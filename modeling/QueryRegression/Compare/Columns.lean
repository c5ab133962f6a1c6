import QueryRegression.Failure
import QueryRegression.Table
import QueryRegression.Text.Ascii

/-!
# Comparison of columns

Two results have the same columns if they have equally many and if, column by column, the short
names and the types agree up to the case of ASCII letters. A name is short after its last point.
A column of blobs in the actual result is expected as bytes.
-/

namespace QueryRegression

/-- The name without its qualifier, the text after the last point. -/
def shortName (name : String) : String :=
  .ofList (name.toList.reverse.takeWhile (· ≠ '.')).reverse

namespace Table

/-- The type under which blobs are expected. -/
def canonicalBlobType : String := "byte[]"

/-- The type that is expected for a column of the given actual type. -/
def canonicalType (type : String) : String :=
  if Text.eqAsciiCase type "blob" then canonicalBlobType else type

/-- The names and types of the columns. -/
def columns (t : Table) : List (String × String) := t.columnNames.zip t.columnTypes

/-- Compares a column with the one expected in its place; columns are counted from one. -/
def compareColumn (number : Nat) (actual expected : String × String) : Option Failure :=
  let actualName := shortName actual.1
  let expectedName := shortName expected.1
  let actualType := canonicalType actual.2
  if !Text.eqAsciiCase expectedName actualName then
    some (.general .structural
      (s!"Got incorrect column name at column {number}, expected = " ++ expectedName ++
        " but got = " ++ actualName))
  else if !Text.eqAsciiCase expected.2 actualType then
    some (.general .structural
      (s!"Got incorrect column type at column {number}, expected = " ++ expected.2 ++
        " but got = " ++ actualType))
  else none

/-- The first failure of columns from the one with the given number on. -/
def compareColumnsFrom (number : Nat) :
    List (String × String) → List (String × String) → Option Failure
  | a :: as, e :: es => compareColumn number a e <|> compareColumnsFrom (number + 1) as es
  | _, _ => none

/-- Compares the columns of two tables. -/
def compareColumns (actual expected : Table) : Option Failure :=
  if expected.columnCount ≠ actual.columnCount then
    some (.general .structural
      (s!"Got incorrect number of columns, expected = {expected.columnCount}, " ++
        s!"actual = {actual.columnCount}"))
  else compareColumnsFrom 1 actual.columns expected.columns

end Table
end QueryRegression
