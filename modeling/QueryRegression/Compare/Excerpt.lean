/-!
# Differences between texts

Two texts that differ are reported by the place of their first difference. Short texts are shown
whole; of long ones an excerpt around that place is shown in quotes, with points where it was cut.
-/

namespace QueryRegression

/-- How two texts first differ. -/
inductive Difference where
  /-- Both have a character at the place, but not the same. -/
  | character (expected actual : Char)
  /-- One text ends at the place. The lengths of both are given. -/
  | length (expected actual : Nat)
deriving DecidableEq

/-- The first difference of two texts. -/
structure TextMismatch where
  /-- The number of characters before the difference. -/
  index : Nat
  difference : Difference
  expectedExcerpt : String
  actualExcerpt : String
deriving DecidableEq

namespace TextMismatch

/-- Characters shown on each side of the difference. -/
def margin : Nat := 20

/-- The length of both texts together up to which they are shown whole. -/
def wholeLength : Nat := 50

/-- The length of the longest common beginning. -/
def commonLength : List Char → List Char → Nat
  | a :: as, b :: bs => if a = b then commonLength as bs + 1 else 0
  | _, _ => 0

/-- The characters of `cs` around the index in quotes, with points on the sides that were cut. -/
def excerpt (index : Nat) (cs : List Char) : String :=
  let start := index - margin
  let stop := min (index + margin) cs.length
  (if index ≤ margin then "'" else "...'") ++ .ofList ((cs.take stop).drop start) ++
    (if stop = cs.length then "'" else "'...")

/-- How the characters of two texts first differ after a common beginning. -/
def difference? (index : Nat) (expected actual : List Char) : Difference :=
  match expected[index]?, actual[index]? with
  | some e, some a => .character e a
  | _, _ => .length expected.length actual.length

/-- The first difference of two texts; `none` if they are equal. -/
def find? (expected actual : String) : Option TextMismatch :=
  if expected = actual then none
  else
    let e := expected.toList
    let a := actual.toList
    let index := commonLength e a
    let shown :=
      if wholeLength < e.length + a.length then (excerpt index e, excerpt index a)
      else (expected, actual)
    some ⟨index, difference? index e a, shown.1, shown.2⟩

/-- The words for the place of a difference, where characters are counted from one. -/
def location (m : TextMismatch) : String :=
  match m.difference with
  | .character e a =>
    s!"  Strings do not match at character: {m.index + 1}. Expected [" ++ e.toString ++
      "] - but got [" ++ a.toString ++ "]"
  | .length e a =>
    s!"  Strings differ in length at character: {m.index + 1}. " ++
      s!"Expected {e} characters - but got {a}"

/-- What was expected, what was found, and where they differ. -/
def describe (m : TextMismatch) : String :=
  "Expected: " ++ m.expectedExcerpt ++ " but was: " ++ m.actualExcerpt ++ m.location

end TextMismatch
end QueryRegression
