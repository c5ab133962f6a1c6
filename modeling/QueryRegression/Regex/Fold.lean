import QueryRegression.Regex.FoldTable
import QueryRegression.Text.CharSet

/-!
# Sets without regard to case

`foldCase` adds to a set every character that differs from a member in case only, `foldAsciiCase`
those among the ASCII letters.
-/

namespace QueryRegression.Regex

open Text

/-- Characters with their case foldings, where these differ. -/
def foldings (runs : List CaseRun) : List (Nat × Nat) :=
  runs.flatMap fun run =>
    (List.range ((run.last - run.first) / run.step + 1)).map fun k =>
      let n := run.first + k * run.step
      (n, ((n : Int) + run.shift).toNat)

/-- The set with every character that has the case folding of a member. -/
def foldWith (pairs : List (Nat × Nat)) (s : CharSet) : CharSet :=
  let folded := pairs.filterMap fun (n, m) =>
    if CharSet.covers s.ranges n then some (m, m) else none
  let s := s.union (.ofRanges folded)
  let unfolded := pairs.filterMap fun (n, m) =>
    if CharSet.covers s.ranges m then some (n, n) else none
  s.union (.ofRanges unfolded)

/-- The set without regard to case. -/
def foldCase (s : CharSet) : CharSet := foldWith (foldings foldRuns) s

/-- The set without regard to the case of ASCII letters. -/
def foldAsciiCase (s : CharSet) : CharSet := foldWith (foldings [⟨0x41, 0x5A, 1, 32⟩]) s

end QueryRegression.Regex
