/-!
# Sets of characters

A set of code points is a list of ranges, each given by its first and last member, in ascending
order and with a gap between neighbours; the operations keep this form.
-/

namespace QueryRegression.Text

/-- A set of code points as ascending ranges. -/
structure CharSet where
  ranges : List (Nat × Nat)
deriving DecidableEq

namespace CharSet

/-- Whether `n` lies in one of the ascending ranges. -/
def covers : List (Nat × Nat) → Nat → Bool
  | [], _ => false
  | (first, last) :: rest, n => if n < first then false else n ≤ last || covers rest n

/-- Whether the character belongs to the set. -/
def contains (s : CharSet) (c : Char) : Bool := covers s.ranges c.toNat

/-- The set of no character. -/
def empty : CharSet := ⟨[]⟩

/-- The set of every code point. -/
def full : CharSet := ⟨[(0, 0x10FFFF)]⟩

/-- The set of the code points from `first` to `last`. -/
def range (first last : Nat) : CharSet := if first ≤ last then ⟨[(first, last)]⟩ else empty

/-- The set of one code point. -/
def single (n : Nat) : CharSet := ⟨[(n, n)]⟩

/-- Merges two ascending lists of ranges by their first members. -/
def merge : List (Nat × Nat) → List (Nat × Nat) → List (Nat × Nat)
  | [], ys => ys
  | xs, [] => xs
  | x :: xs, y :: ys => if x.1 ≤ y.1 then x :: merge xs (y :: ys) else y :: merge (x :: xs) ys
termination_by xs ys => xs.length + ys.length

/-- The range from `first` to `last`, followed by ranges in the order of their first members, with
those that touch joined. -/
def join (first last : Nat) : List (Nat × Nat) → List (Nat × Nat)
  | [] => [(first, last)]
  | (a, b) :: rest =>
    if a ≤ last + 1 then join first (max last b) rest else (first, last) :: join a b rest

/-- The ranges, given in the order of their first members, with those that touch joined. -/
def joinRanges : List (Nat × Nat) → List (Nat × Nat)
  | [] => []
  | (a, b) :: rest => join a b rest

/-- The code points in at least one of two sets. -/
def union (s t : CharSet) : CharSet := ⟨joinRanges (merge s.ranges t.ranges)⟩

/-- The gaps of ascending ranges, from `start` on. -/
def gaps (start : Nat) : List (Nat × Nat) → List (Nat × Nat)
  | [] => if start ≤ 0x10FFFF then [(start, 0x10FFFF)] else []
  | (a, b) :: rest => if start < a then (start, a - 1) :: gaps (b + 1) rest else gaps (b + 1) rest

/-- The code points outside a set. -/
def complement (s : CharSet) : CharSet := ⟨gaps 0 s.ranges⟩

/-- The code points in both sets. -/
def inter (s t : CharSet) : CharSet := (s.complement.union t.complement).complement

/-- The code points of the first set that are not in the second. -/
def diff (s t : CharSet) : CharSet := s.inter t.complement

/-- The code points in exactly one of two sets. -/
def symmDiff (s t : CharSet) : CharSet := (s.diff t).union (t.diff s)

/-- The set with the given members, in any order. -/
def ofRanges (rs : List (Nat × Nat)) : CharSet :=
  rs.foldl (fun s r => s.union (range r.1 r.2)) empty

/-- Whether the set has no member. -/
def isEmpty (s : CharSet) : Bool := s.ranges.isEmpty

/-- Whether every member is an ASCII character. -/
def isAscii (s : CharSet) : Bool := s.ranges.all (·.2 < 128)

end CharSet
end QueryRegression.Text
