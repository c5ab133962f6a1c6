import QueryRegression.Number.Rounding

/-!
# Decimal numbers of 96 bits

A decimal is an integer `coefficient` of at most 96 bits, divided by a power of ten of at most
`10 ^ 28`; the `scale` is the number of places it is written with. Two decimals are compared by
value. Sums are exact where they fit and are rounded where only places are lost; a sum whose
whole part does not fit does not exist.
-/

namespace QueryRegression

open Number

/-- The decimal `coefficient / 10 ^ scale`. Zero has no sign: a negative zero, which has the same
value and is only written otherwise, is left out, and no number that is read gives one. -/
structure Decimal where
  coefficient : Int
  scale : Nat
  coefficient_lt : coefficient.natAbs < 2 ^ 96
  scale_le : scale ≤ 28
deriving DecidableEq

namespace Decimal

/-- The greatest number of places. -/
def maxScale : Nat := 28

/-- Zero, without places. -/
def zero : Decimal := ⟨0, 0, by decide, by decide⟩

/-- The decimal `coefficient / 10 ^ scale`, if there is one. -/
def ofParts? (coefficient : Int) (scale : Nat) : Option Decimal :=
  if h : coefficient.natAbs < 2 ^ 96 ∧ scale ≤ 28 then some ⟨coefficient, scale, h.1, h.2⟩ else none

/-- Whether the value is zero. -/
def isZero (d : Decimal) : Bool := d.coefficient == 0

/-- Whether the value is below zero. -/
def isNegative (d : Decimal) : Bool := d.coefficient < 0

/-- The absolute value. -/
def abs (d : Decimal) : Decimal :=
  ⟨d.coefficient.natAbs, d.scale, by rw [Int.natAbs_natCast]; exact d.coefficient_lt, d.scale_le⟩

/-- The decimal of opposite value. -/
def neg (d : Decimal) : Decimal :=
  ⟨-d.coefficient, d.scale, by rw [Int.natAbs_neg]; exact d.coefficient_lt, d.scale_le⟩

/-- Comparison by value. -/
def compare (a b : Decimal) : Ordering :=
  Ord.compare (a.coefficient * 10 ^ b.scale) (b.coefficient * 10 ^ a.scale)

/-- Equality of values. -/
def eq (a b : Decimal) : Bool := a.compare b == .eq

/-- Whether the first value is less. -/
def lt (a b : Decimal) : Bool := a.compare b == .lt

/-- The decimal of the most places, at most `places`, that rounds `magnitude / 10 ^ scale`, with
ties to the even digit. -/
def fit? (negative : Bool) (magnitude scale : Nat) (places : Nat) : Option Decimal :=
  let rounded := divHalfEven magnitude (10 ^ (scale - places))
  match ofParts? (if negative then -(rounded : Int) else rounded) places with
  | some d => some d
  | none =>
    match places with
    | 0 => none
    | places + 1 => fit? negative magnitude scale places

/-- The sum, rounded to the places that fit; `none` if its whole part does not. -/
def add? (a b : Decimal) : Option Decimal :=
  let scale := max a.scale b.scale
  let sum := a.coefficient * 10 ^ (scale - a.scale) + b.coefficient * 10 ^ (scale - b.scale)
  fit? (sum < 0) sum.natAbs scale scale

/-- The difference, rounded to the places that fit; `none` if its whole part does not. -/
def sub? (a b : Decimal) : Option Decimal := a.add? b.neg

end Decimal
end QueryRegression
