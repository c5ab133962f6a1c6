import QueryRegression.Number.Power

/-!
# Rounding a quotient to an integer

The two rules in use: a tie goes to the even neighbour, or away from zero.
-/

namespace QueryRegression.Number

/-- The natural number nearest `n / d`; of two equally near, the even one. -/
def divHalfEven (n d : Nat) : Nat :=
  let q := n / d
  let twice := 2 * (n % d)
  if twice < d then q else if d < twice then q + 1 else if q % 2 = 0 then q else q + 1

/-- The natural number nearest `n / d`; of two equally near, the greater one. -/
def divHalfUp (n d : Nat) : Nat := (2 * n + d) / (2 * d)

/-- The number of decimal digits of a number; zero has one. -/
def decimalLength (n : Nat) : Nat := (Nat.toDigits 10 n).length

end QueryRegression.Number
