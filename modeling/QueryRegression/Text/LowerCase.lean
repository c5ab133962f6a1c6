import QueryRegression.Text.CharSet
import QueryRegression.Text.LowerCase.Table

/-!
# Lower-casing

`lowercase` is the full lower-casing of Unicode: every character is replaced by its small letter;
`İ` becomes `i` with a dot above, and a capital sigma at the end of a word becomes the final
small sigma. A sigma ends a word if a cased letter stands before it and none after it, where
characters that case ignores are passed over on both sides.
-/

namespace QueryRegression.Text

/-- Whether the character is a letter that has case. -/
def isCased (c : Char) : Bool := CharSet.covers casedRanges c.toNat

/-- Whether case looks through the character. -/
def isCaseIgnorable (c : Char) : Bool := CharSet.covers caseIgnorableRanges c.toNat

/-- The small letter of a character beyond ASCII, by the runs from the first that reaches it. -/
def lowerBeyondAscii (n : Nat) : List CaseRun → Nat
  | [] => n
  | run :: rest =>
    if n < run.first then n
    else if n ≤ run.last then
      if (n - run.first) % run.step = 0 then ((n : Int) + run.shift).toNat else n
    else lowerBeyondAscii n rest

/-- The small letters of one character, its neighbours left aside. -/
def lowerChar (c : Char) : List Char :=
  if c.toNat < 128 then [c.toLower]
  else if c.toNat = 0x130 then ['i', Char.ofNat 0x307]
  else [Char.ofNat (lowerBeyondAscii c.toNat lowerRuns)]

/-- Whether the first character that case does not look through is a cased letter. -/
def casedAhead (cs : List Char) : Bool := (cs.dropWhile isCaseIgnorable).head?.any isCased

/-- Lower-casing of the rest of a text; `casedBehind` tells whether the last character before it
that case does not look through is a cased letter. -/
def lowercaseFrom (casedBehind : Bool) : List Char → List Char
  | [] => []
  | c :: rest =>
    let small :=
      if c.toNat = 0x3A3 then [if casedBehind && !casedAhead rest then 'ς' else 'σ']
      else lowerChar c
    small ++ lowercaseFrom (if isCaseIgnorable c then casedBehind else isCased c) rest

/-- The text in small letters. -/
def lowercase (s : String) : String := .ofList (lowercaseFrom false s.toList)

end QueryRegression.Text
