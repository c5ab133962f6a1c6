import QueryRegression.Number.Power
import QueryRegression.Regex.WordTable
import QueryRegression.Text.CharSet

/-!
# Regular expressions

A pattern is matched against a text by computing, for a set of places at which matching may begin,
the set of places at which it may end. Places are the numbers from zero to the length of the text,
and sets of them are the bits of a natural number: reading a character shifts the set by one, and
an assertion keeps the places where it holds. So the cost does not depend on the number of ways to
match.
-/

namespace QueryRegression

open Text

namespace Regex

/-- Which edges of words an assertion holds at. -/
inductive WordEdge where
  | boundary
  | noBoundary
  | start
  | stop
  /-- No word character comes before. -/
  | startHalf
  /-- No word character follows. -/
  | stopHalf
deriving DecidableEq

/-- What an assertion says of a place. -/
inductive Assertion where
  | textStart
  | textEnd
  | lineStart
  | lineEnd
  /-- The beginning of a line, where a carriage return ends a line, too. -/
  | returnLineStart
  /-- The end of a line, where a carriage return ends a line, too. -/
  | returnLineEnd
  /-- An edge of a word; words are made of ASCII characters only unless `unicode` holds. -/
  | word (edge : WordEdge) (unicode : Bool)
deriving DecidableEq

end Regex

/-- A regular expression. -/
inductive Regex where
  | empty
  | set (members : CharSet)
  | assert (assertion : Regex.Assertion)
  | seq (first second : Regex)
  | alt (first second : Regex)
  /-- At least `least` times, and at most `most` times if that is given. -/
  | many (body : Regex) (least : Nat) (most : Option Nat)

namespace Regex

/-! ## Sets of places -/

/-- The places before a character of the given kind. -/
def placesBefore (p : Char → Bool) : List Char → Nat
  | [] => 0
  | c :: rest => 2 * placesBefore p rest + (if p c then 1 else 0)

/-- The places of a text of the given length. -/
def allPlaces (length : Nat) : Nat := 2 ^ (length + 1) - 1

/-- The places in the first set that are not in the second. -/
def withoutPlaces (s t : Nat) : Nat := s ^^^ (s &&& t)

/-- The word characters of ASCII. -/
def asciiWordSet : CharSet := ⟨[(0x30, 0x39), (0x41, 0x5A), (0x5F, 0x5F), (0x61, 0x7A)]⟩

/-- The places at an edge of a word, where `word` are those before a word character. -/
def wordPlaces (all word : Nat) : WordEdge → Nat
  | .boundary => word ^^^ (word <<< 1)
  | .noBoundary => withoutPlaces all (word ^^^ (word <<< 1))
  | .start => withoutPlaces word (word <<< 1)
  | .stop => withoutPlaces (word <<< 1) word
  | .startHalf => withoutPlaces all (word <<< 1)
  | .stopHalf => withoutPlaces all word

/-- The places of a text at which an assertion holds. -/
def assertionPlaces (text : List Char) : Assertion → Nat
  | .textStart => 1
  | .textEnd => 2 ^ text.length
  | .lineStart => 1 ||| (placesBefore (· == '\n') text <<< 1)
  | .lineEnd => 2 ^ text.length ||| placesBefore (· == '\n') text
  | .returnLineStart =>
    let feed := placesBefore (· == '\n') text
    1 ||| (feed <<< 1) ||| withoutPlaces (placesBefore (· == '\r') text <<< 1) feed
  | .returnLineEnd =>
    let feed := placesBefore (· == '\n') text
    let back := placesBefore (· == '\r') text
    2 ^ text.length ||| back ||| withoutPlaces feed (back <<< 1)
  | .word edge unicode =>
    let word := placesBefore (if unicode then wordSet else asciiWordSet).contains text
    wordPlaces (allPlaces text.length) word edge

/-! ## Matching -/

/-- A pattern at one text: its sets of characters and its assertions as sets of places. -/
inductive Plan where
  | empty
  /-- Reads a character at one of the places. -/
  | step (places : Nat)
  /-- Stays at one of the places. -/
  | stay (places : Nat)
  | seq (first second : Plan)
  | alt (first second : Plan)
  | many (body : Plan) (least : Nat) (most : Option Nat)

/-- The plan of a pattern for a text. -/
def plan (text : List Char) : Regex → Plan
  | .empty => .empty
  | .set members => .step (placesBefore members.contains text)
  | .assert assertion => .stay (assertionPlaces text assertion)
  | .seq a b => .seq (a.plan text) (b.plan text)
  | .alt a b => .alt (a.plan text) (b.plan text)
  | .many body least most => .many (body.plan text) least most

/-- Applies `step` the given number of times. -/
def repeated (step : Nat → Nat) : Nat → Nat → Nat
  | 0, s => s
  | n + 1, s => if s = 0 then 0 else repeated step n (step s)

/-- The places that at most `n` further steps lead to; `reached` are those reached so far, and
`last` those reached by the last step for the first time. -/
def reachable (step : Nat → Nat) : Nat → Nat → Nat → Nat
  | 0, reached, _ => reached
  | n + 1, reached, last =>
    let fresh := withoutPlaces (step last) reached
    if fresh = 0 then reached else reachable step n (reached ||| fresh) fresh

/-- The places at which a match may end that begins at one of the given places. Repetition without
a bound ends when no new place is reached, which takes at most as many steps as there are
places. -/
def Plan.ends (places : Nat) : Plan → Nat → Nat
  | .empty, s => s
  | .step p, s => (s &&& p) <<< 1
  | .stay p, s => s &&& p
  | .seq a b, s => b.ends places (a.ends places s)
  | .alt a b, s => a.ends places s ||| b.ends places s
  | .many body least most, s =>
    let start := repeated (body.ends places) least s
    reachable (body.ends places) (most.elim places (· - least)) start start

/-- Whether a text has a part that the pattern matches. -/
def search (r : Regex) (text : List Char) : Bool :=
  (r.plan text).ends (text.length + 1) (allPlaces text.length) != 0

end Regex
end QueryRegression
