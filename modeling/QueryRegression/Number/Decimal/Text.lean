import QueryRegression.Number.Decimal
import QueryRegression.Number.Integer

/-!
# Decimals as text

A decimal is written with exactly its places. Two forms are read: digits with at most one point,
where `_` may stand after the first digit, and such a base with an exponent of ten. Digits beyond
the places that fit are rounded half up by the first of them.
-/

namespace QueryRegression.Decimal

open Number

/-- The decimal with all its places. -/
def toText (d : Decimal) : String :=
  let sign := if d.coefficient < 0 then "-" else ""
  let magnitude := d.coefficient.natAbs
  let whole := toString (magnitude / 10 ^ d.scale)
  if d.scale = 0 then sign ++ whole
  else
    let places := toString (magnitude % 10 ^ d.scale)
    sign ++ whole ++ "." ++ .ofList (List.replicate (d.scale - places.length) '0') ++ places

/-! ## Plain form -/

/-- Whether only digits and separators are left. -/
def onlyDigits (cs : List Char) : Bool := cs.all fun c => c.isDigit || c == '_'

/-- The value of what was read, rounded up if the first digit left out is at least five. A
coefficient that rounding makes too great gives up a place. -/
def roundOff (negative : Bool) (value scale : Nat) (dropped : Char) (rest : List Char) :
    Option Decimal :=
  if !onlyDigits (dropped :: rest) then none
  else
    let rounded := if 53 ≤ dropped.toNat ∧ dropped ≠ '_' then value + 1 else value
    let signed (n : Nat) : Int := if negative then -(n : Int) else n
    if rounded < 2 ^ 96 then ofParts? (signed rounded) scale
    else if scale = 0 then none
    else ofParts? (signed ((rounded + 4) / 10)) (scale - 1)

/-- Reads digits after a sign; `point` tells whether the point was seen, `any` whether a digit
was. -/
def readDigits (negative point any : Bool) (value scale : Nat) : List Char → Option Decimal
  | [] => if any then ofParts? (if negative then -(value : Int) else value) scale else none
  | c :: rest =>
    if c.isDigit then
      let next := 10 * value + (c.toNat - 48)
      if point && (scale == maxScale || 2 ^ 96 ≤ next) then roundOff negative value scale c rest
      else if 2 ^ 96 ≤ next then none
      else readDigits negative point true next (if point then scale + 1 else 0) rest
    else if c = '.' ∧ !point then readDigits negative true any value scale rest
    else if c = '_' ∧ any then
      if point && scale == maxScale then roundOff negative value scale c rest
      else readDigits negative point any value scale rest
    else none

/-- Reads an optional sign and digits with at most one point. -/
def plain? : List Char → Option Decimal
  | '-' :: rest => readDigits true false false 0 0 rest
  | '+' :: rest => readDigits false false false 0 0 rest
  | rest => readDigits false false false 0 0 rest

/-! ## Form with an exponent -/

/-- The decimal of the given number of places nearest the value; a half goes away from zero. -/
def roundTo (d : Decimal) (places : Nat) : Option Decimal :=
  if d.scale ≤ places then some d
  else
    let rounded : Int := divHalfUp d.coefficient.natAbs (10 ^ (d.scale - places))
    ofParts? (if d.coefficient < 0 then -rounded else rounded) places

/-- The value divided by `10 ^ n`, rounded to the places there are. -/
def shiftDown (d : Decimal) (n : Nat) : Option Decimal :=
  if maxScale < n then none
  else do
    let rounded ← d.roundTo (maxScale - n)
    ofParts? rounded.coefficient (rounded.scale + n)

/-- The value multiplied by `10 ^ n`. -/
def shiftUp (d : Decimal) (n : Nat) : Option Decimal :=
  if n ≤ d.scale then ofParts? d.coefficient (d.scale - n)
  else if maxScale < n then none
  else ofParts? (d.coefficient * 10 ^ (n - d.scale)) 0

/-- Reads a base and, after the first `e` or `E`, an exponent of ten. -/
def scientific? (cs : List Char) : Option Decimal := do
  let isMark (c : Char) : Bool := c == 'e' || c == 'E'
  let base := cs.takeWhile (!isMark ·)
  match cs.dropWhile (!isMark ·) with
  | [] => none
  | _ :: '-' :: exponent => do
    let n ← (unsigned 32 exponent).toOption
    (← plain? base).shiftDown n
  | _ :: exponent => do
    let n ← (unsigned 32 exponent).toOption
    (← plain? base).shiftUp n

/-- Reads a decimal in either form. -/
def ofChars? (cs : List Char) : Option Decimal := plain? cs <|> scientific? cs

/-- Reads a decimal in either form. -/
def ofText? (s : String) : Option Decimal := ofChars? s.toList

end QueryRegression.Decimal
