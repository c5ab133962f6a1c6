import QueryRegression.Regex

/-!
# Limits of patterns

Patterns that are nested too much or take too much memory when they are compiled are refused. How
much memory a pattern takes is a matter of how it is compiled, so what is refused is a parameter of
reading. The standard limits measure a pattern by the states of an automaton that reads texts in
UTF-8, which it takes more of for a set of characters, the less regular the bytes of its members.
-/

namespace QueryRegression.Regex

open Text

/-- Which patterns are refused although they are well formed. -/
structure Limits where
  /-- The greatest depth of a pattern. -/
  height : Nat
  /-- Whether there is room for a pattern that was written as the given text. -/
  hasRoom : List Char → Regex → Bool

/-! ## States for characters -/

/-- The code points of one length in UTF-8: the number of bytes behind the first one, with the
first and the last code point. -/
def codeLengths : List (Nat × Nat × Nat) :=
  [(0, 0, 0x7F), (1, 0x80, 0x7FF), (2, 0x800, 0xD7FF), (2, 0xE000, 0xFFFF), (3, 0x10000, 0x10FFFF)]

/-- The number of states that read the code points from `first` to `last`, all with the given
number of bytes behind the first byte. Leading bytes behind which every byte may follow share their
states; the others do not. -/
def chainStates : Nat → Nat → Nat → Nat
  | 0, _, _ => 1
  | more + 1, first, last =>
    let block := 64 ^ (more + 1)
    if first / block = last / block then 1 + chainStates more (first % block) (last % block)
    else
      (if first % block = 0 then 0 else 1 + chainStates more (first % block) (block - 1)) +
        (if last % block = block - 1 then 0 else 1 + chainStates more 0 (last % block)) +
        (if (first + block - 1) / block < (last + 1) / block then more + 2 else 0)

/-- The number of states that read a code point of a range. -/
def rangeStates (first last : Nat) : Nat :=
  codeLengths.foldl (fun sum (more, least, greatest) =>
    if max first least ≤ min last greatest then
      sum + chainStates more (max first least) (min last greatest)
    else sum) 0

/-- The number of leading bytes that two code points have in common. -/
def sharedStates (a b : Nat) : Nat :=
  codeLengths.foldl (fun sum (more, least, greatest) =>
    if least ≤ a ∧ b ≤ greatest then
      sum + (List.range more).countP fun k => a / 64 ^ (k + 1) == b / 64 ^ (k + 1)
    else sum) 0

/-- The number of states that read a code point of one of the ascending ranges. Neighbours share
the states of their common leading bytes. -/
def setStates : List (Nat × Nat) → Nat
  | [] => 0
  | [(first, last)] => rangeStates first last
  | (first, last) :: (first', last') :: rest =>
    rangeStates first last - sharedStates last first' + setStates ((first', last') :: rest)

/-! ## Memory of patterns -/

/-- The bytes that a state takes. -/
def stateBytes : Nat := 32

/-- The bytes for a set of characters: a single character is read byte by byte, and otherwise the
ways to read a member are joined. -/
def setMemory (s : CharSet) : Nat :=
  match s.ranges with
  | [(first, last)] =>
    if first = last then stateBytes * rangeStates first last
    else stateBytes * (rangeStates first last + 2)
  | ranges =>
    if s.isAscii then 2 * stateBytes + 8 * ranges.length
    else stateBytes * (setStates ranges + 2) + 4 * ranges.length

/-- Whether the pattern matches the empty text only. -/
def readsNothing : Regex → Bool
  | .empty | .assert _ => true
  | .set _ => false
  | .seq a b | .alt a b => a.readsNothing && b.readsNothing
  | .many body _ most => body.readsNothing || most == some 0

/-- The bytes that a compiled pattern takes. A repeated part is copied for every repetition that it
must be told apart for, unless it reads nothing. -/
def memory : Regex → Nat
  | .empty | .assert _ => stateBytes
  | .set s => setMemory s
  | .seq a b => a.memory + b.memory
  | .alt a b => a.memory + b.memory + 2 * stateBytes
  | .many body least most =>
    if body.readsNothing then body.memory + 2 * stateBytes
    else max 1 (most.getD least) * body.memory +
      (most.getD (least + 1) - least + 1) * stateBytes

/-- Patterns may be nested 250 times and take 10 MiB. -/
def Limits.standard : Limits where
  height := 250
  hasRoom _ r := r.memory ≤ 10 * 2 ^ 20

end QueryRegression.Regex
