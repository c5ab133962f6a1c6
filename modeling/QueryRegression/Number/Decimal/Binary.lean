import QueryRegression.Number.Decimal
import QueryRegression.Number.Binary

/-!
# Decimals as floating-point numbers

The whole part and the places of a decimal are turned into doubles one by one; their sum is then
rounded to the places of the decimal once more. The result is not always the double nearest the
decimal.
-/

namespace QueryRegression.Decimal

/-- The double of an absolute value. -/
def magnitudeToBinary64 (coefficient scale : Nat) : Binary64 :=
  let whole : Binary64 := .ofNat (coefficient / 10 ^ scale)
  let places := coefficient % 10 ^ scale
  if places = 0 then whole
  else
    let power : Binary64 := .ofNat (10 ^ scale)
    let sum := whole.add ((Binary.ofNat places).div power)
    ((sum.mul power).roundHalfAway).div power

/-- The decimal as a double. -/
def toBinary64 (d : Decimal) : Binary64 :=
  let x := magnitudeToBinary64 d.coefficient.natAbs d.scale
  if d.coefficient < 0 then x.neg else x

/-- The decimal as a number of 32 bits, by way of the double. -/
def toBinary32 (d : Decimal) : Binary32 := d.toBinary64.convert

end QueryRegression.Decimal
