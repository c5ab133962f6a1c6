import QueryRegression.Text.Hex
import QueryRegression.Yaml.Cursor

/-!
# The text of scalars

A scalar in quotes or without them is made of words; between two words stands a gap of blanks and
breaks. A block scalar is made of lines with a common indentation. In both cases, a single break
may stand for a blank.
-/

namespace QueryRegression.Yaml

/-! ## Gaps -/

/-- What stands between two words: the blanks of the first line, and the breaks. -/
structure Gap where
  blanks : List Char
  breaks : List Char

/-- What breaks in a row stand for: a single one for a blank, otherwise the first for nothing. Only
a line feed is folded so. -/
def folded : List Char → List Char
  | ['\n'] => [' ']
  | '\n' :: breaks => breaks
  | breaks => breaks

/-- The text that a gap stands for. -/
def Gap.text (g : Gap) : List Char := if g.breaks.isEmpty then g.blanks else folded g.breaks

/-- Reads breaks and the blanks after them. Less than `least` columns from the beginning of a line
no tab may stand among them. -/
def readBreaks (least fuel : Nat) (k : Cursor) : Option (List Char × Cursor) :=
  match fuel, k.break? with
  | fuel + 1, some (c, next) =>
    let (blanks, next) := next.take isBlank
    if (blanks.take least).contains '\t' then none
    else do
      let (breaks, after) ← readBreaks least fuel next
      return (c :: breaks, after)
  | _, _ => some ([], k)

/-- Reads a gap. -/
def readGap (least : Nat) (k : Cursor) : Option (Gap × Cursor) := do
  let (blanks, k) := k.take isBlank
  let (breaks, k) ← readBreaks least k.rest.length k
  return (⟨blanks, breaks⟩, k)

/-! ## Plain scalars -/

/-- Whether the character in front of the given text ends a plain scalar. -/
def endsPlain (inFlow : Bool) (k : Cursor) : Bool :=
  k.rest.head?.all fun c => (c = ':' && k.endsAfter 1) || (inFlow && isFlowMark c)

/-- Whether a colon stands at the place that is no part of a plain scalar and ends none. -/
def isStrayColon (inFlow : Bool) (k : Cursor) : Bool :=
  inFlow && k.rest.head? = some ':' && (k.rest[1]?).any fun c => isFlowMark c || c = '?'

/-- Reads a plain scalar, the lines of which begin at the column `least` or later. The answer also
says whether the line has ended after it. -/
def readPlain (inFlow : Bool) (least fuel : Nat) (k : Cursor) :
    Option (List Char × Bool × Cursor) :=
  match fuel, k.rest with
  | 0, _ => none
  | _ + 1, [] => some ([], false, k)
  | fuel + 1, c :: _ =>
    if isBlank c || isBreak c then do
      let (gap, next) ← readGap least k
      let ended := !gap.breaks.isEmpty
      if !inFlow && next.column < least || next.isBoundary || next.rest.head? = some '#' then
        return ([], ended, next)
      else
        let (text, endedLater, after) ← readPlain inFlow least fuel next
        return if text.isEmpty then ([], ended, next) else (gap.text ++ text, endedLater, after)
    else if isStrayColon inFlow k then none
    else if endsPlain inFlow k then some ([], false, k)
    else do
      let (text, ended, after) ← readPlain inFlow least fuel (k.advance 1)
      return (c :: text, ended, after)

/-! ## Scalars in quotes -/

/-- The character that an escape of one letter stands for. -/
def shortEscape? (c : Char) : Option Char :=
  [('0', '\x00'), ('a', '\x07'), ('b', '\x08'), ('t', '\t'), ('\t', '\t'), ('n', '\n'),
    ('v', '\x0b'), ('f', '\x0c'), ('r', '\r'), ('e', '\x1b'), (' ', ' '), ('"', '"'), ('/', '/'),
    ('\\', '\\'), ('N', '\u0085'), ('_', '\u00a0'), ('L', '\u2028'), ('P', '\u2029')].lookup c

/-- Reads an escape after its backslash. -/
def readEscape (k : Cursor) : Option (Char × Cursor) :=
  let code (width : Nat) : Option (Char × Cursor) := do
    let digits := (k.rest.drop 1).take width
    if digits.length < width then none
    else return (← Text.charOfCode? (← Text.hexNumber? 0 digits), k.advance (width + 1))
  match k.rest with
  | 'x' :: _ => code 2
  | 'u' :: _ => code 4
  | 'U' :: _ => code 8
  | c :: _ => (shortEscape? c).map (·, k.advance 1)
  | [] => none

/-- Reads a scalar after its first quote. A break after a backslash stands for nothing. -/
def readQuoted (quote : Char) (fuel : Nat) (k : Cursor) : Option (List Char × Cursor) :=
  match fuel, k.rest with
  | 0, _ | _, [] => none
  | fuel + 1, c :: rest =>
    let readMore (before : List Char) (k : Cursor) : Option (List Char × Cursor) :=
      (readQuoted quote fuel k).map fun (text, after) => (before ++ text, after)
    if k.isBoundary then none
    else if isBlank c || isBreak c then do
      let (gap, next) ← readGap 0 k
      readMore gap.text next
    else if c = quote then
      if quote = '\'' ∧ rest.head? = some '\'' then readMore ['\''] (k.advance 2)
      else some ([], k.advance 1)
    else if quote = '"' ∧ c = '\\' then
      match (k.advance 1).break? with
      | some (_, next) => do
        let (gap, next) ← readGap 0 next
        readMore gap.breaks next
      | none => do
        let (e, next) ← readEscape (k.advance 1)
        readMore [e] next
    else readMore [c] (k.advance 1)

/-! ## Block scalars -/

/-- What to do with the breaks at the end of a block scalar. -/
inductive Chomp where
  | strip
  | clip
  | keep
deriving DecidableEq

/-- The treatment that a character asks for. -/
def Chomp.ofChar? (c : Char) : Option Chomp := [('-', strip), ('+', keep)].lookup c

/-- The indentation that a character asks for. -/
def increment? (c : Char) : Option Nat :=
  if '1' ≤ c ∧ c ≤ '9' then some (c.toNat - 48) else none

/-- Reads the marks after the sign of a block scalar: each kind at most once, in any order. -/
def blockMarks? (marks : List Char) : Option (Chomp × Option Nat) :=
  let chomps := marks.filterMap Chomp.ofChar?
  let increments := marks.filterMap increment?
  if chomps.length + increments.length = marks.length ∧ chomps.length ≤ 1 ∧
      increments.length ≤ 1 then
    some (chomps.headD .clip, increments.head?)
  else none

/-- Reads empty lines and the indentation after them, which may be known: the breaks, the farthest
column of a line, and the place of the next character. -/
def readEmptyLines (indent : Option Nat) (fuel : Nat) (k : Cursor) :
    Option (List Char × Nat × Cursor) :=
  match fuel with
  | 0 => none
  | fuel + 1 =>
    let blanks := (k.rest.takeWhile (· = ' ')).length
    let k := k.advance (indent.elim blanks fun n => min blanks (n - k.column))
    if k.rest.head? = some '\t' ∧ indent.all (k.column < ·) then none
    else
      match k.break? with
      | none => some ([], k.column, k)
      | some (c, next) => do
        let (breaks, farthest, after) ← readEmptyLines indent fuel next
        return (c :: breaks, max k.column farthest, after)

/-- What follows the lines of a block scalar read so far: the break at their end, the breaks after
that, and the place after them. -/
structure BlockEnd where
  lineEnd : List Char
  breaks : List Char
  after : Cursor

/-- Reads the further lines of a block scalar. Where neither a line nor the one before it begins
with a blank, folding affects the breaks between them. -/
def readBlockLines (isFolded : Bool) (indent fuel : Nat) (wasSpaced : Bool) (before : BlockEnd) :
    Option (List Char × BlockEnd) :=
  let k := before.after
  match fuel with
  | 0 => none
  | fuel + 1 =>
    if k.column ≠ indent ∨ k.rest.isEmpty then some ([], before)
    else do
      let isSpaced := k.rest.head?.any isBlank
      let gap := before.lineEnd ++ before.breaks
      let isJoined := isFolded && !before.lineEnd.isEmpty && !wasSpaced && !isSpaced
      let (line, next) := k.take (!isBreak ·)
      let (lineEnd, next) := (next.break?).elim ([], next) fun (c, start) => ([c], start)
      let (breaks, _, next) ← readEmptyLines (some indent) (next.rest.length + 1) next
      let (text, rest) ← readBlockLines isFolded indent fuel isSpaced ⟨lineEnd, breaks, next⟩
      return ((if isJoined then folded gap else gap) ++ line ++ text, rest)

/-- Reads a block scalar after its sign, where `least` is the least column of its lines. -/
def readBlock (isFolded : Bool) (least : Nat) (k : Cursor) : Option (List Char × Cursor) := do
  let (marks, k) := k.take fun c => c.isDigit || c = '+' || c = '-'
  let (chomp, increment) ← blockMarks? marks
  let k ← k.lineEnd?
  let known := increment.map (least - 1 + ·)
  let (breaks, farthest, k) ← readEmptyLines known (k.rest.length + 1) k
  let indent := known.getD (max (max farthest least) 1)
  let (text, rest) ← readBlockLines isFolded indent (k.rest.length + 1) false ⟨[], breaks, k⟩
  let ending :=
    match chomp with
    | .strip => []
    | .clip => rest.lineEnd
    | .keep => rest.lineEnd ++ rest.breaks
  return (text ++ ending, rest.after)

end QueryRegression.Yaml
