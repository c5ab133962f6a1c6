import QueryRegression.Number.Binary

/-!
# The shortest decimal of a floating-point number

`shortest` finds the fewest digits that read back as the same number, and among decimals of that
many digits the one nearest to it. The decimals that read back are those between the midpoints to
the two neighbours, the midpoints included if the magnitude is even. Everything is compared
exactly, in halves of a unit.
-/

namespace QueryRegression

open Number

/-- The decimal `digits * 10 ^ exponent`. -/
structure DecimalDigits where
  digits : Nat
  exponent : Int
deriving DecidableEq

namespace DecimalDigits

/-- The same decimal without zeros at the end of its digits; `fuel` bounds their number. -/
def stripZeros (fuel : Nat) (d : DecimalDigits) : DecimalDigits :=
  match fuel with
  | 0 => d
  | fuel + 1 =>
    if d.digits ≠ 0 ∧ d.digits % 10 = 0 then stripZeros fuel ⟨d.digits / 10, d.exponent + 1⟩ else d

/-- The power of ten of the first digit. -/
def leading (d : DecimalDigits) : Int := d.exponent + decimalLength d.digits - 1

end DecimalDigits

namespace Binary

/-- The power of ten of the first decimal digit of the positive quotient `n / d`. -/
def leadingPower (n d : Nat) : Int :=
  if d ≤ n then (decimalLength (n / d) : Int) - 1
  else -(decimalLength ((d + n - 1) / n - 1) : Int)

/-- The decimals with the exponent `power` next to `n / d`, the nearer first. -/
def neighbours (n d : Nat) (power : Int) : List DecimalDigits :=
  let num := n * 10 ^ (-power).toNat
  let den := d * 10 ^ power.toNat
  let low := num / den
  if 2 * (num % den) < den then [⟨low, power⟩, ⟨low + 1, power⟩]
  else [⟨low + 1, power⟩, ⟨low, power⟩]

variable {f : BinaryFormat}

/-- Whether a decimal reads back as the finite number of positive magnitude `m`. -/
def readsBack (f : BinaryFormat) (m : Nat) (d : DecimalDigits) : Bool :=
  let num := d.digits * 10 ^ d.exponent.toNat * (2 * f.one)
  let den := 10 ^ (-d.exponent).toNat
  let low := (f.units (m - 1) + f.units m) * den
  let high := (f.units m + f.units (m + 1)) * den
  if m % 2 = 0 then low ≤ num && num ≤ high else low < num && num < high

/-- Tries `count` digits and then more, `fuel` times, until a decimal reads back. -/
def shortestFrom (f : BinaryFormat) (m : Nat) (leading : Int) (fuel count : Nat) : DecimalDigits :=
  match fuel with
  | 0 => ⟨f.units m, 0⟩
  | fuel + 1 =>
    match (neighbours (f.units m) f.one (leading + 1 - count)).find? (readsBack f m) with
    | some d => d.stripZeros count
    | none => shortestFrom f m leading fuel (count + 1)

/-- The shortest decimal that reads back as the finite number of magnitude `m`. -/
def shortestOf (f : BinaryFormat) (m : Nat) : DecimalDigits :=
  if m = 0 then ⟨0, 0⟩
  else shortestFrom f m (leadingPower (f.units m) f.one) (f.fractionBits + 2) 1

/-- The shortest decimal that reads back as the same finite number. -/
def shortest (x : Binary f) : DecimalDigits := shortestOf f x.magnitude

end Binary
end QueryRegression
