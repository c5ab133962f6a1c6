import QueryRegression.Sorting.Runs

/-!
# Sorting

Few elements are sorted by insertion, more by runs. In a long list runs that are not in order are
sorted late, by partition around a pivot, so that neighbouring ones are sorted together.
`stableSort?` takes a comparison that should be a consistent order. If it is, the elements come in
that order, and those that are equal in their given order. If it is not, their order is not
specified, and the sort may break off without a result.
-/

namespace QueryRegression.Sorting

section Quicksort

variable {α : Type} (less : α → α → Bool)

/-- The one of three elements that is between the others. -/
def median (a b c : α) : α :=
  let x := less a b
  if x == less a c then if less b c == x then b else c else a

/-- The median of three elements, each of them taken from around the place given, which has `span`
elements. -/
def medianAround (get : Nat → α) (a b c span : Nat) : α :=
  if 8 ≤ span then
    let part := span / 8
    let around (place : Nat) := medianAround get place (place + part * 4) (place + part * 7) part
    median less (around a) (around b) (around c)
  else median less (get a) (get b) (get c)
termination_by span
decreasing_by all_goals omega

/-- The element that a list is partitioned around. -/
def pivot (x : α) (xs : List α) : α :=
  let elements := (x :: xs).toArray
  let part := elements.size / 8
  medianAround less (fun place => elements.getD place x) 0 (part * 4) (part * 7)
    (if elements.size < 64 then 0 else part)

/-- Sorts by partition. `floor` is an element that none of the list comes before. Where the
partitions stay lopsided for `limit` times, the list is sorted by runs. -/
def quicksort? : Nat → Option α → List α → Option (List α)
  | _, _, [] => some []
  | limit, floor, x :: xs =>
    if (x :: xs).length ≤ shortLength then sortShort? less (x :: xs)
    else
      match limit with
      | 0 => sortEagerly? less (x :: xs)
      | limit + 1 =>
        let pivot := pivot less x xs
        let low := (x :: xs).filter fun y => less y pivot
        if low.isEmpty || floor.any fun f => !less f pivot then do
          -- nothing is below the pivot: what is equal to it needs no more sorting
          let high ← quicksort? limit none ((x :: xs).filter fun y => less pivot y)
          return ((x :: xs).filter fun y => !less pivot y) ++ high
        else do
          let high ← quicksort? limit (some pivot) ((x :: xs).filter fun y => !less y pivot)
          let low ← quicksort? limit floor low
          return low ++ high

/-- Sorts by partition, with a limit of twice the binary logarithm of the length. -/
def partitionSort? (xs : List α) : Option (List α) :=
  quicksort? less (2 * (xs.length ||| 1).log2) none xs

end Quicksort

/-- A stretch of a list that is in order or still to be sorted. -/
structure Run (α : Type) where
  elements : List α
  inOrder : Bool

section Runs

variable {α : Type} (less : α → α → Bool)

/-- The elements of a run in order. -/
def Run.sort? (run : Run α) : Option (List α) :=
  if run.inOrder then some run.elements else partitionSort? less run.elements

/-- Joins two runs. They stay unsorted if neither is in order and there is room to sort both
together. -/
def Run.join? (room : Nat) (left right : Run α) : Option (Run α) :=
  if room < left.elements.length + right.elements.length || left.inOrder || right.inOrder then do
    return ⟨merge less (← left.sort? less) (← right.sort? less), true⟩
  else some ⟨left.elements ++ right.elements, false⟩

/-- Sorts by runs that are sorted when they are joined. -/
def sortLazily? (room : Nat) (xs : List α) : Option (List α) := do
  let length := xs.length
  let minRun := minRunLength length
  match ← splitRuns? less minRun minRun (Run.mk · true) (fun run => some (Run.mk run false)) xs with
  | [] => return []
  | run :: runs =>
    let run ← joinRuns? (Run.join? less room) (·.elements.length) (treeScale length) 0 [] run runs
    run.sort? less

/-- The greatest length at which elements are sorted by insertion. -/
def insertionLength : Nat := 20

/-- How many elements of a list fit into the working space that is used beside it. -/
def room (length : Nat) : Nat := max (max (length - length / 2) (min length 333333)) 170

/-- Sorts a list. -/
def sort? (xs : List α) : Option (List α) :=
  if xs.length ≤ insertionLength then some (insertAll less [] xs)
  else if xs.length ≤ 2 * shortLength then sortEagerly? less xs
  else sortLazily? less (room xs.length) xs

end Runs

/-- Sorts elements by a comparison. The sort sees no element but through comparisons, so it is
the places of the elements that are sorted here. -/
def stableSort? {α : Type} (cmp : α → α → Ordering) (xs : List α) : Option (List α) :=
  let elements := xs.toArray
  let places := sort? (fun i j : Fin elements.size => cmp elements[i] elements[j] == .lt)
    (List.finRange elements.size)
  places.map fun places => places.map fun i => elements[i]

end QueryRegression.Sorting
