import QueryRegression.Number.Power

/-!
# Reading bounded integers

An integer is an optional sign and at least one ASCII digit. Of several faults the one at the
earliest character counts: a character that is no digit, or the digit with which the number
leaves the range.
-/

namespace QueryRegression.Number

/-- Why a text is no integer of the range. -/
inductive IntegerFault where
  | invalidDigit
  | tooLarge
  | tooSmall
deriving DecidableEq

/-- The wording of a fault. -/
def IntegerFault.message : IntegerFault → String
  | .invalidDigit => "invalid digit found in string"
  | .tooLarge => "number too large to fit in target type"
  | .tooSmall => "number too small to fit in target type"

/-- Reads digits up to the greatest allowed value after those read so far. -/
def digitsUpTo (limit : Nat) (fault : IntegerFault) (value : Nat) :
    List Char → Except IntegerFault Nat
  | [] => .ok value
  | c :: rest =>
    if c.isDigit then
      let next := 10 * value + (c.toNat - 48)
      if next ≤ limit then digitsUpTo limit fault next rest else .error fault
    else .error .invalidDigit

/-- Reads an integer from `-2 ^ bits` to `2 ^ bits - 1`. -/
def signed (bits : Nat) (cs : List Char) : Except IntegerFault Int :=
  match cs with
  | [] | ['-'] | ['+'] => .error .invalidDigit
  | '-' :: rest => do
    return -(← digitsUpTo (2 ^ bits) .tooSmall 0 rest : Nat)
  | '+' :: rest => do
    return (← digitsUpTo (2 ^ bits - 1) .tooLarge 0 rest : Nat)
  | rest => do
    return (← digitsUpTo (2 ^ bits - 1) .tooLarge 0 rest : Nat)

/-- Reads a natural number below `2 ^ bits`; a plus sign is allowed. -/
def unsigned (bits : Nat) (cs : List Char) : Except IntegerFault Nat :=
  match cs with
  | [] | ['-'] | ['+'] => .error .invalidDigit
  | '+' :: rest => digitsUpTo (2 ^ bits - 1) .tooLarge 0 rest
  | rest => digitsUpTo (2 ^ bits - 1) .tooLarge 0 rest

end QueryRegression.Number
