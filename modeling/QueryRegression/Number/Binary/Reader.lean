import QueryRegression.Number.Binary

/-!
# Reading floating-point numbers

The grammar: an optional sign, then `inf`, `infinity` or `nan` in any case, or digits with at most
one point and at least one digit, and an optional exponent of at least one digit. The result is
correctly rounded; numbers too great become infinite.
-/

namespace QueryRegression.Binary

/-- The sign in front of a text, `true` for minus, and the text after it. -/
def splitSign : List Char → Bool × List Char
  | '-' :: rest => (true, rest)
  | '+' :: rest => (false, rest)
  | rest => (false, rest)

/-- The value of ASCII digits. -/
def digitsValue (cs : List Char) : Nat := cs.foldl (fun n c => 10 * n + (c.toNat - 48)) 0

/-- The whole text as an exponent with an optional sign. -/
def exponent? (cs : List Char) : Option Int :=
  let (negative, digits) := splitSign cs
  if digits ≠ [] ∧ digits.all Char.isDigit then
    some (if negative then -(digitsValue digits : Int) else digitsValue digits)
  else none

/-- The number nearest `mantissa * 10 ^ exponent`. Powers of ten far outside the range of the
format are not computed. -/
def ofScientific {f : BinaryFormat} (negative : Bool) (mantissa : Nat) (exponent : Int) :
    Binary f :=
  let leading : Int := Number.decimalLength mantissa + exponent
  if mantissa = 0 ∨ leading < -(f.oneExponent : Int) then { zero with negative := negative }
  else if f.oneExponent < leading then infinite negative
  else ofRatio negative (mantissa * 10 ^ exponent.toNat) (10 ^ (-exponent).toNat)

/-- Reads the digits, the point and the exponent after a sign. -/
def unsigned? {f : BinaryFormat} (negative : Bool) (cs : List Char) : Option (Binary f) :=
  let whole := cs.takeWhile Char.isDigit
  let afterWhole := cs.dropWhile Char.isDigit
  let (fraction, rest) :=
    match afterWhole with
    | '.' :: rest => (rest.takeWhile Char.isDigit, rest.dropWhile Char.isDigit)
    | rest => ([], rest)
  let exponent :=
    match rest with
    | [] => some 0
    | c :: rest => if c = 'e' ∨ c = 'E' then exponent? rest else none
  if whole = [] ∧ fraction = [] then none
  else exponent.map fun e =>
    ofScientific negative (digitsValue (whole ++ fraction)) (e - fraction.length)

/-- Reads a floating-point number. -/
def ofChars? {f : BinaryFormat} (cs : List Char) : Option (Binary f) :=
  let (negative, rest) := splitSign cs
  let word := rest.map Char.toLower
  if word = "inf".toList ∨ word = "infinity".toList then some (infinite negative)
  else if word = "nan".toList then some { nan with negative := negative }
  else unsigned? negative rest

/-- Reads a floating-point number. -/
def ofText? {f : BinaryFormat} (s : String) : Option (Binary f) := ofChars? s.toList

end QueryRegression.Binary
