/-!
# Sorting few elements

Each half of a short list is sorted by insertion, and the two are merged from both ends up to the
middle. `less a b` tells that `a` comes before `b`; the methods ask nothing else of the elements.
-/

namespace QueryRegression.Sorting

variable {α : Type} (less : α → α → Bool)

/-- Puts an element into its place among elements in descending order, in front of all that it
does not come before. -/
def insertDescending (x : α) : List α → List α
  | [] => [x]
  | y :: ys => if less x y then y :: insertDescending x ys else x :: y :: ys

/-- Inserts one element after the other into elements in ascending order, each from the end. -/
def insertAll (sorted xs : List α) : List α :=
  (xs.foldl (fun descending x => insertDescending less x descending) sorted.reverse).reverse

/-- Two elements in order. -/
def sortTwo (a b : α) : α × α := if less b a then (b, a) else (a, b)

/-- The elements of two pairs in order, if each pair is. -/
def mergePairs (p q : α × α) : List α :=
  let (first, x, y, last) :=
    match less q.1 p.1, less q.2 p.2 with
    | true, true => (q.1, p.1, q.2, p.2)
    | true, false => (q.1, p.1, p.2, q.2)
    | false, true => (p.1, q.1, q.2, p.2)
    | false, false => (p.1, p.2, q.1, q.2)
  if less y x then [first, y, x, last] else [first, x, y, last]

/-- Four elements in order, by five comparisons. -/
def sortFour (a b c d : α) : List α := mergePairs less (sortTwo less a b) (sortTwo less c d)

/-- Sorts by insertion, behind the first four elements if they are sorted `byFours`. -/
def presort (byFours : Bool) : List α → List α
  | a :: b :: c :: d :: rest =>
    if byFours then insertAll less (sortFour less a b c d) rest
    else insertAll less [] (a :: b :: c :: d :: rest)
  | xs => insertAll less [] xs

/-- Merges two sorted lists from the start. The left one of two equal elements goes first. -/
def mergeForward (left right : List α) : List α := left.merge right fun x y => !less y x

/-- Merges two sorted lists from the end. -/
def mergeBackward (left right : List α) : List α :=
  (right.reverse.merge left.reverse fun y x => !less y x).reverse

/-- The first `count` elements of a merge from the start, and how many of them the left list
gave. -/
def mergeFront : Nat → List α → List α → List α × Nat
  | count + 1, x :: xs, y :: ys =>
    if less y x then
      let (merged, fromLeft) := mergeFront count (x :: xs) ys
      (y :: merged, fromLeft)
    else
      let (merged, fromLeft) := mergeFront count xs (y :: ys)
      (x :: merged, fromLeft + 1)
  | _, _, _ => ([], 0)

/-- Merges two lists from both ends, the right one of which has as many elements as the left one
or one more. There is no result if the ends do not meet: then the comparison is no order. -/
def mergeFromEnds? (left right : List α) : Option (List α) :=
  let half := left.length
  let spare := right.length - half
  let (front, fromLeft) := mergeFront less half left right
  let (back, fromRight) := mergeFront (fun a b => less b a) half right.reverse left.reverse
  if fromLeft ≤ fromRight ∧ fromRight ≤ fromLeft + spare then
    -- the one element, if any, that neither end has taken
    let middle := (left.take fromRight).drop fromLeft ++
      (right.take (right.length - fromRight)).drop (half - fromLeft)
    some (front ++ middle ++ back.reverse)
  else none

/-- The greatest length at which elements are sorted as a short list. -/
def shortLength : Nat := 32

/-- The least length at which both halves of a short list start with four sorted elements. -/
def foursLength : Nat := 8

/-- Sorts a short list. -/
def sortShort? (xs : List α) : Option (List α) :=
  if xs.length < 2 then some xs
  else
    let byFours := decide (foursLength ≤ xs.length)
    let half := xs.length / 2
    mergeFromEnds? less (presort less byFours (xs.take half)) (presort less byFours (xs.drop half))

end QueryRegression.Sorting
