import QueryRegression.Number.Binary.Shortest

/-!
# Floating-point numbers as text

`render` writes the shortest decimal of a number in a `BinaryStyle`; `renderFixed` writes a fixed
number of places.
-/

namespace QueryRegression

open Number

/-- How floating-point numbers are written. -/
structure BinaryStyle where
  /-- The powers of ten of the first digit that are written without an exponent; all, if `none`. -/
  positional : Option (Int × Int)
  /-- Whether whole numbers end in `.0`. -/
  pointZero : Bool

/-- Values: an exponent below one ten-thousandth and from ten to the sixteenth on, and a point in
every number without one. -/
def BinaryStyle.value : BinaryStyle := ⟨some (-4, 15), true⟩

/-- Messages: never an exponent, and a point only before decimal places. -/
def BinaryStyle.plain : BinaryStyle := ⟨none, false⟩

/-- The digits of a number, filled up on the left with zeros to the given width. -/
def padded (width n : Nat) : String :=
  let digits := toString n
  .ofList (List.replicate (width - digits.length) '0') ++ digits

namespace DecimalDigits

/-- The decimal without an exponent. -/
def positionalText (d : DecimalDigits) (pointZero : Bool) : String :=
  if 0 ≤ d.exponent then
    toString (d.digits * 10 ^ d.exponent.toNat) ++ (if pointZero then ".0" else "")
  else
    let places := (-d.exponent).toNat
    s!"{d.digits / 10 ^ places}." ++ padded places (d.digits % 10 ^ places)

/-- The decimal with one digit before the point and an exponent. -/
def scientificText (d : DecimalDigits) : String :=
  let places := decimalLength d.digits - 1
  let fraction := if places = 0 then "" else "." ++ padded places (d.digits % 10 ^ places)
  s!"{d.digits / 10 ^ places}" ++ fraction ++ s!"e{d.leading}"

/-- The decimal in the given style. -/
def text (style : BinaryStyle) (d : DecimalDigits) : String :=
  match style.positional with
  | none => d.positionalText style.pointZero
  | some (low, high) =>
    if d.digits = 0 ∨ low ≤ d.leading ∧ d.leading ≤ high then d.positionalText style.pointZero
    else d.scientificText

end DecimalDigits

namespace Binary

variable {f : BinaryFormat}

/-- The number in the given style; what is not a number shows no sign. -/
def render (style : BinaryStyle) (x : Binary f) : String :=
  if x.isNaN then "NaN"
  else
    (if x.negative then "-" else "") ++
      if x.isInfinite then "inf" else x.shortest.text style

/-- A finite number with the given number of places, at least one; a tie goes to the even digit. -/
def renderFixed (places : Nat) (x : Binary f) : String :=
  let scaled := divHalfEven (f.units x.magnitude * 10 ^ places) f.one
  (if x.negative then "-" else "") ++ s!"{scaled / 10 ^ places}." ++
    padded places (scaled % 10 ^ places)

end Binary
end QueryRegression
