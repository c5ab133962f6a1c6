import QueryRegression.Sorting.Short

/-!
# Sorting by runs

A list is split into runs: stretches that ascend or descend already, or a few elements at a time
where these are too short. Neighbouring runs are joined along a tree that is kept nearly balanced.
-/

namespace QueryRegression.Sorting

variable {α ρ : Type} (less : α → α → Bool)

/-- Merges two sorted lists from the start or, if the right one is shorter, from the end. -/
def merge (left right : List α) : List α :=
  if left.length ≤ right.length then mergeForward less left right
  else mergeBackward less left right

/-! ## Splitting -/

/-- Whether the second element comes before the first. -/
def descends : List α → Bool
  | x :: y :: _ => less y x
  | _ => false

/-- The elements that go on descending, or not descending, after `x`. -/
def continuation (descending : Bool) (x : α) : List α → List α
  | [] => []
  | y :: ys => if less y x == descending then y :: continuation descending y ys else []

/-- Splits a list into runs. What is found in order is a run if it has at least `minRun` elements;
else one is made of `shortRun` elements. -/
def splitRuns? (minRun shortRun : Nat) (ofSorted : List α → ρ) (ofShort? : List α → Option ρ) :
    List α → Option (List ρ)
  | [] => some []
  | x :: xs =>
    let descending := descends less (x :: xs)
    let more := continuation less descending x xs
    if minRun ≤ more.length + 1 then do
      let sorted := if descending then (x :: more).reverse else x :: more
      let runs ← splitRuns? minRun shortRun ofSorted ofShort? (xs.drop more.length)
      return ofSorted sorted :: runs
    else do
      let run ← ofShort? (x :: xs.take (shortRun - 1))
      let runs ← splitRuns? minRun shortRun ofSorted ofShort? (xs.drop (shortRun - 1))
      return run :: runs
termination_by xs => xs.length
decreasing_by all_goals simp only [List.length_drop, List.length_cons]; omega

/-- The least number of elements in order that count as a run of a list of `length` elements: half
of them, at most 64, and about the square root of the length in a long list. -/
def minRunLength (length : Nat) : Nat :=
  if length ≤ 64 * 64 then min (length - length / 2) 64
  else
    let digits := (1 + length.log2) / 2
    (2 ^ digits + length / 2 ^ digits) / 2

/-! ## Joining -/

/-- The factor that takes twice a place in a list of `length` elements to a number below `2 ^ 63`,
nearly. -/
def treeScale (length : Nat) : Nat := (2 ^ 62 + length - 1) / length

/-- How deep in the tree two neighbouring runs are joined: in how many of their first 64 binary
digits the scaled middles of the two agree. -/
def joinDepth (scale left middle right : Nat) : Nat :=
  63 - ((scale * (left + middle)) ^^^ (scale * (middle + right))).log2

/-- Joins a run with the runs before it that are to be joined at `depth` or deeper. The runs are
given last first, each with the depth at which it is joined with the next. -/
def joinDeeper? (join? : ρ → ρ → Option ρ) (depth : Nat) :
    List (ρ × Nat) → ρ → Option (List (ρ × Nat) × ρ)
  | [], run => some ([], run)
  | (left, leftDepth) :: before, run =>
    if depth ≤ leftDepth then do joinDeeper? join? depth before (← join? left run)
    else some ((left, leftDepth) :: before, run)

/-- Joins all runs into one. `run` begins at `start` and is followed by the runs of the list. -/
def joinRuns? (join? : ρ → ρ → Option ρ) (length : ρ → Nat) (scale : Nat) :
    Nat → List (ρ × Nat) → ρ → List ρ → Option ρ
  | _, before, run, [] => (joinDeeper? join? 0 before run).map Prod.snd
  | start, before, run, next :: runs => do
    let middle := start + length run
    let depth := joinDepth scale start middle (middle + length next)
    let (before, run) ← joinDeeper? join? depth before run
    joinRuns? join? length scale middle ((run, depth) :: before) next runs

/-- Sorts by runs each of which is sorted at once. -/
def sortEagerly? (xs : List α) : Option (List α) := do
  let length := xs.length
  match ← splitRuns? less (minRunLength length) shortLength id (sortShort? less) xs with
  | [] => return []
  | run :: runs =>
    joinRuns? (fun left right => some (merge less left right)) List.length (treeScale length)
      0 [] run runs

end QueryRegression.Sorting
