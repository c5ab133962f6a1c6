import QueryRegression.Number.Rounding

/-!
# Binary floating-point numbers

A number of a binary interchange format of IEEE 754 is a sign and a `magnitude`: the remaining
bits, read as a natural number. Magnitudes below `infinity` are the finite ones, in the order of
their values; those above it are not numbers. A finite magnitude stands for `units` multiples of
the least positive number of the format, and a whole one is `one` such units. So every operation
is an exact computation on natural numbers, rounded once (`BinaryFormat.round`).
-/

namespace QueryRegression

open Number

/-- The widths that fix a binary interchange format. -/
structure BinaryFormat where
  fractionBits : Nat
  exponentBits : Nat
deriving DecidableEq

namespace BinaryFormat

/-- Numbers of 32 bits. -/
def single : BinaryFormat := ⟨23, 8⟩

/-- Numbers of 64 bits. -/
def double : BinaryFormat := ⟨52, 11⟩

/-- How many magnitudes there are. -/
def magnitudes (f : BinaryFormat) : Nat := 2 ^ (f.exponentBits + f.fractionBits)

/-- The magnitude of infinity. -/
def infinity (f : BinaryFormat) : Nat := (2 ^ f.exponentBits - 1) * 2 ^ f.fractionBits

/-- The logarithm of `one`. -/
def oneExponent (f : BinaryFormat) : Nat := 2 ^ (f.exponentBits - 1) - 2 + f.fractionBits

/-- The number of units in the number one. -/
def one (f : BinaryFormat) : Nat := 2 ^ f.oneExponent

/-- The value of a finite magnitude in units. -/
def units (f : BinaryFormat) (magnitude : Nat) : Nat :=
  let exponent := magnitude / 2 ^ f.fractionBits
  let fraction := magnitude % 2 ^ f.fractionBits
  if exponent = 0 then fraction else (2 ^ f.fractionBits + fraction) * 2 ^ (exponent - 1)

/-- The magnitude nearest `n / d` units; of two equally near, the even one. What lies beyond the
greatest finite number by half a step or more becomes infinity. -/
def round (f : BinaryFormat) (n d : Nat) : Nat :=
  let exponent := (n / d).log2 - f.fractionBits
  min (exponent * 2 ^ f.fractionBits + divHalfEven n (d * 2 ^ exponent)) f.infinity

theorem magnitudes_pos (f : BinaryFormat) : 0 < f.magnitudes := Nat.two_pow_pos _

theorem infinity_lt (f : BinaryFormat) : f.infinity < f.magnitudes := by
  have h : 0 < 2 ^ f.exponentBits := Nat.two_pow_pos _
  have h' : 0 < 2 ^ f.fractionBits := Nat.two_pow_pos _
  simp only [infinity, magnitudes, Nat.pow_add]
  exact Nat.mul_lt_mul_of_pos_right (by omega) h'

theorem round_le (f : BinaryFormat) (n d : Nat) : f.round n d ≤ f.infinity := Nat.min_le_right _ _

theorem round_lt (f : BinaryFormat) (n d : Nat) : f.round n d < f.magnitudes :=
  Nat.lt_of_le_of_lt (f.round_le n d) f.infinity_lt

end BinaryFormat

/-- A floating-point number of a format. -/
structure Binary (f : BinaryFormat) where
  negative : Bool
  magnitude : Nat
  magnitude_lt : magnitude < f.magnitudes
deriving DecidableEq

/-- A floating-point number of 32 bits. -/
abbrev Binary32 := Binary .single

/-- A floating-point number of 64 bits. -/
abbrev Binary64 := Binary .double

namespace Binary

variable {f g : BinaryFormat}

/-! ## Bits -/

/-- The number with the given bits, the sign bit foremost. -/
def ofBits (bits : Nat) : Binary f :=
  ⟨bits / f.magnitudes % 2 = 1, bits % f.magnitudes, Nat.mod_lt _ f.magnitudes_pos⟩

/-- The bits of a number. -/
def toBits (x : Binary f) : Nat := (if x.negative then f.magnitudes else 0) + x.magnitude

/-! ## Kinds of numbers -/

/-- Whether this is not a number. -/
def isNaN (x : Binary f) : Bool := f.infinity < x.magnitude

/-- Whether this is one of the infinities. -/
def isInfinite (x : Binary f) : Bool := x.magnitude == f.infinity

/-- Whether this is one of the zeros. -/
def isZero (x : Binary f) : Bool := x.magnitude == 0

/-- The positive zero. -/
def zero : Binary f := ⟨false, 0, f.magnitudes_pos⟩

/-- The infinity of the given sign. -/
def infinite (negative : Bool) : Binary f := ⟨negative, f.infinity, f.infinity_lt⟩

/-- Half a step of the fraction above infinity; the result of operations without a value. -/
def nan : Binary f := ofBits (f.infinity + 2 ^ (f.fractionBits - 1))

/-- The number of the given sign nearest `n / d` units. -/
def ofUnits (negative : Bool) (n d : Nat) : Binary f := ⟨negative, f.round n d, f.round_lt n d⟩

/-- The number of the given sign nearest `n / d`. -/
def ofRatio (negative : Bool) (n d : Nat) : Binary f := ofUnits negative (n * f.one) d

/-- The number nearest an integer. -/
def ofInt (n : Int) : Binary f := ofRatio (n < 0) n.natAbs 1

/-- The number nearest a natural number. -/
def ofNat (n : Nat) : Binary f := ofRatio false n 1

/-- The value of a finite number in units. -/
def signedUnits (x : Binary f) : Int :=
  if x.negative then -(f.units x.magnitude : Int) else f.units x.magnitude

/-! ## Comparison -/

/-- The place of a number in numeric order; both zeros have the same. -/
def position (x : Binary f) : Int := if x.negative then -(x.magnitude : Int) else x.magnitude

/-- Equality as numbers: the zeros are equal, and what is not a number equals nothing. -/
def eq (x y : Binary f) : Bool := !x.isNaN && !y.isNaN && x.position == y.position

/-- The numeric order; what is not a number is related to nothing. -/
def lt (x y : Binary f) : Bool := !x.isNaN && !y.isNaN && x.position < y.position

/-- Less or equal as numbers. -/
def le (x y : Binary f) : Bool := !x.isNaN && !y.isNaN && x.position ≤ y.position

/-- The place of a number in the total order of all bit patterns: negative before positive, and
in each sign what is not a number outermost. -/
def rank (x : Binary f) : Int := if x.negative then -(x.magnitude : Int) - 1 else x.magnitude

/-- Comparison in the total order of all bit patterns. -/
def totalCompare (x y : Binary f) : Ordering := compare x.rank y.rank

/-! ## Arithmetic -/

/-- The number with the other sign. -/
def neg (x : Binary f) : Binary f := { x with negative := !x.negative }

/-- The sum, correctly rounded. -/
def add (x y : Binary f) : Binary f :=
  if x.isNaN || y.isNaN then nan
  else if x.isInfinite then
    if y.isInfinite && x.negative != y.negative then nan else x
  else if y.isInfinite then y
  else
    let sum := x.signedUnits + y.signedUnits
    if sum = 0 then { zero with negative := x.negative && y.negative }
    else ofUnits (sum < 0) sum.natAbs 1

/-- The difference, correctly rounded. -/
def sub (x y : Binary f) : Binary f := x.add y.neg

/-- The product, correctly rounded. -/
def mul (x y : Binary f) : Binary f :=
  let negative := x.negative != y.negative
  if x.isNaN || y.isNaN then nan
  else if x.isInfinite || y.isInfinite then
    if x.isZero || y.isZero then nan else infinite negative
  else ofUnits negative (f.units x.magnitude * f.units y.magnitude) f.one

/-- The quotient, correctly rounded. -/
def div (x y : Binary f) : Binary f :=
  let negative := x.negative != y.negative
  if x.isNaN || y.isNaN then nan
  else if x.isInfinite then
    if y.isInfinite then nan else infinite negative
  else if y.isInfinite then { zero with negative := negative }
  else if y.isZero then
    if x.isZero then nan else infinite negative
  else ofUnits negative (f.units x.magnitude * f.one) (f.units y.magnitude)

/-- The nearest integer; a half goes away from zero. -/
def roundHalfAway (x : Binary f) : Binary f :=
  if x.isNaN || x.isInfinite then x
  else ofRatio x.negative (divHalfUp (f.units x.magnitude) f.one) 1

/-- The nearest number of another format. Of what is not a number the leading bits are kept, and
the first of them is set. -/
def convert (x : Binary f) : Binary g :=
  if x.isNaN then
    let half := 2 ^ (g.fractionBits - 1)
    let fraction := (x.magnitude - f.infinity) * 2 ^ g.fractionBits / 2 ^ f.fractionBits % half
    { (ofBits (g.infinity + half + fraction) : Binary g) with negative := x.negative }
  else if x.isInfinite then infinite x.negative
  else ofUnits x.negative (f.units x.magnitude * g.one) f.one

end Binary
end QueryRegression
