import QueryRegression.Number.Decimal.Binary
import QueryRegression.Value

/-!
# Tolerance

Two decimals, two doubles or two floats match within an allowed divergence, each pair in its own
arithmetic. Numbers of different types are not compared here.
-/

namespace QueryRegression

/-- The outcome of comparing two values as numbers. -/
inductive NumericMatch where
  /-- The values are not two numbers of one of the three types. -/
  | notApplicable
  | within
  | outside
deriving DecidableEq

namespace NumericMatch

/-- Whether the actual decimal is farther from the expected one than the divergence. A bound that
is no decimal is never exceeded. -/
def decimalOutside (divergence expected actual : Decimal) : Bool :=
  if expected.eq actual then false
  else if divergence.isZero then true
  else
    ((expected.add? divergence).elim false fun upper => upper.lt actual) ||
      ((expected.sub? divergence).elim false fun lower => actual.lt lower)

/-- Whether the actual number is farther from the expected one than the tolerance; equality is
asked for if `exact` holds. -/
def binaryOutside {f : BinaryFormat} (tolerance : Binary f) (exact : Bool)
    (expected actual : Binary f) : Bool :=
  if expected.eq actual then false
  else if exact then true
  else (expected.add tolerance).lt actual || actual.lt (expected.sub tolerance)

/-- Within or outside. -/
def ofOutside (outside : Bool) : NumericMatch := if outside then .outside else .within

/-- Compares two values as numbers. -/
def ofValues (divergence : Decimal) : Value → Value → NumericMatch
  | .decimal expected, .decimal actual => ofOutside (decimalOutside divergence expected actual)
  | .double expected, .double actual =>
    ofOutside (binaryOutside divergence.toBinary64 divergence.isZero expected actual)
  | .float expected, .float actual =>
    ofOutside (binaryOutside divergence.toBinary32 divergence.isZero expected actual)
  | _, _ => .notApplicable

end NumericMatch
end QueryRegression
