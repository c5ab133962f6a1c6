import QueryRegression.Regex.Class
import QueryRegression.Regex.Limits

/-!
# Reading patterns

A pattern is made of alternatives, these of repeated items, and an item is a character, a class,
an escape, an anchor or a group. A group of flags changes how the rest of the group around it is
read. Patterns beyond the limits are refused.
-/

namespace QueryRegression.Regex

open Text

/-- An item of a sequence with the depth of its parts; a group of flags alone is no pattern. -/
structure Piece where
  regex? : Option Regex
  height : Nat

/-- Items in reverse order as one pattern, with its depth. -/
def sequence (items : List Piece) : Regex × Nat :=
  let height := items.foldl (fun h item => max h item.height) 0
  let regexes := items.filterMap (·.regex?)
  match regexes with
  | [] => (.empty, height)
  | last :: before =>
    (before.foldl (fun after item => .seq item after) last,
      if items.length > 1 then height + 1 else height)

/-- Alternatives in reverse order as one pattern, with its depth. -/
def alternatives : List (Regex × Nat) → Regex × Nat
  | [] => (.empty, 0)
  | [one] => one
  | last :: before =>
    (before.foldl (fun after branch => .alt branch.1 after) last.1,
      before.foldl (fun h branch => max h branch.2) last.2 + 1)

/-! ## Repetitions -/

/-- Reads digits, with blanks around them: their value, if there is a digit. -/
def readCount (flags : Flags) (value : Option Nat) (fuel : Nat) (cs : List Char) :
    Option Nat × List Char :=
  match fuel, cs with
  | fuel + 1, c :: rest =>
    if c.isDigit then
      readCount flags (some (10 * value.getD 0 + (c.toNat - 48))) fuel (flags.next rest)
    else (value, (c :: rest).dropWhile isBlank)
  | _, cs => (value, cs)

/-- Reads the number of repetitions after blanks. -/
def readBound (flags : Flags) (cs : List Char) : Except Fault (Nat × List Char) :=
  let cs := cs.dropWhile isBlank
  match readCount flags none cs.length cs with
  | (some n, rest) => if n < 2 ^ 32 then .ok (n, rest) else .error .invalidRepetition
  | (none, _) => .error .invalidRepetition

/-- Reads bounds of repetition after the opening brace. -/
def readBounds (flags : Flags) (cs : List Char) :
    Except Fault (Nat × Option Nat × List Char) := do
  let (least, rest) ← readBound flags (flags.next cs)
  let (most, rest) ←
    match rest with
    | ',' :: rest =>
      match flags.next rest with
      | '\x7d' :: rest => pure (none, '\x7d' :: rest)
      | rest => do
        let (most, rest) ← readBound flags rest
        pure (some most, rest)
    | rest => pure (some least, rest)
  match rest with
  | '\x7d' :: rest =>
    if most.all (least ≤ ·) then return (least, most, flags.next rest)
    else throw .invalidRepetition
  | _ => throw .invalidRepetition

/-- The text after a question mark that asks for as few repetitions as possible, which does not
change what matches. -/
def skipLazy : List Char → List Char
  | '?' :: rest => rest
  | rest => rest

/-- The items with the last of them repeated. -/
def repeatLast (least : Nat) (most : Option Nat) : List Piece → Except Fault (List Piece)
  | ⟨some regex, height⟩ :: before => .ok (⟨some (.many regex least most), height + 1⟩ :: before)
  | _ => .error .nothingToRepeat

/-! ## Groups -/

/-- Characters that the name of a group may begin with. -/
def beginsName (c : Char) : Bool := c == '_' || alphabeticSet.contains c

/-- Characters that the name of a group may go on with. -/
def continuesName (c : Char) : Bool :=
  c == '_' || c == '.' || c == '[' || c == ']' || alphabeticSet.contains c || numericSet.contains c

/-- Reads the name of a group up to its closing bracket. -/
def readName (cs : List Char) : Except Fault (List Char × List Char) :=
  let name := cs.takeWhile (· ≠ '>')
  match name, cs.dropWhile (· ≠ '>') with
  | c :: more, _ :: rest =>
    if beginsName c && more.all continuesName then .ok (name, rest) else .error .invalidName
  | _, _ => .error .invalidName

/-- Reads flags up to a colon or a closing parenthesis. `seen` are the flags read so far, and
`sign` tells whether a hyphen was read and whether it was the last character. -/
def readFlags (flags : Flags) (seen : List Char) (sign : Option Bool) :
    List Char → Except Fault (Flags × List Char)
  | [] => .error .invalidFlag
  | c :: rest =>
    if c = ':' ∨ c = ')' then
      if sign = some true then .error .invalidFlag else .ok (flags, c :: rest)
    else if c = '-' then
      if sign.isSome then .error .invalidFlag else readFlags flags seen (some true) rest
    else if Flags.isFlag c ∧ !seen.contains c then
      readFlags (flags.apply sign.isSome c) (c :: seen) (sign.map fun _ => false) rest
    else .error .invalidFlag

/-- How a group begins. -/
inductive GroupOpening where
  /-- A group whose content is read under the flags, with the names of groups so far. -/
  | content (flags : Flags) (names : List (List Char))
  /-- Flags for the rest of the group around. -/
  | setting (flags : Flags)

/-- Reads the name of a group that no group before it has. -/
def readNewName (flags : Flags) (names : List (List Char)) (cs : List Char) :
    Except Fault (GroupOpening × List Char) := do
  let (name, rest) ← readName cs
  if names.contains name then throw .invalidName
  return (.content flags (name :: names), rest)

/-- Reads the beginning of a group after its opening parenthesis. -/
def readOpening (flags : Flags) (names : List (List Char)) (cs : List Char) :
    Except Fault (GroupOpening × List Char) :=
  match flags.next cs with
  | '?' :: '=' :: _ | '?' :: '!' :: _ | '?' :: '<' :: '=' :: _ | '?' :: '<' :: '!' :: _ =>
    .error .lookAround
  | '?' :: 'P' :: '<' :: rest | '?' :: '<' :: rest => readNewName flags names rest
  | '?' :: ')' :: _ => .error .nothingToRepeat
  | '?' :: rest => do
    match ← readFlags flags [] none rest with
    | (flags, ')' :: rest) => return (.setting flags, rest)
    | (flags, _ :: rest) => return (.content flags names, rest)
    | (_, []) => throw .invalidFlag
  | rest => .ok (.content flags names, rest)

/-! ## Patterns -/

/-- A pattern read so far, with the names of its groups and the text after it. -/
structure Reading where
  regex : Regex
  height : Nat
  names : List (List Char)
  rest : List Char

/-- Reads alternatives up to a closing parenthesis or the end. `branches` are the alternatives
before, `items` the items of the last one, both in reverse order. -/
def readItems (fuel : Nat) (flags : Flags) (names : List (List Char))
    (branches : List (Regex × Nat)) (items : List Piece) (cs : List Char) :
    Except Fault Reading :=
  match fuel with
  | 0 => .error .tooDeep
  | fuel + 1 =>
    let push (regex : Regex) (height : Nat) := readItems fuel flags names branches
      (⟨some regex, height⟩ :: items)
    match flags.next cs with
    | [] => close []
    | ')' :: rest => close (')' :: rest)
    | '|' :: rest => readItems fuel flags names (sequence items :: branches) [] rest
    | '(' :: rest => do
      match ← readOpening flags names rest with
      | (.setting flags, rest) => readItems fuel flags names branches (⟨none, 0⟩ :: items) rest
      | (.content inner names, rest) =>
        let reading ← readItems fuel inner names [] [] rest
        match reading.rest with
        | ')' :: rest =>
          readItems fuel flags reading.names branches
            (⟨some reading.regex, reading.height + 1⟩ :: items) rest
        | _ => throw .unclosedGroup
    | '[' :: rest => do
      let (s, rest) ← readClass flags (2 * rest.length + 2) rest
      push (.set s.members) s.height rest
    | '*' :: rest => do
      readItems fuel flags names branches (← repeatLast 0 none items) (skipLazy rest)
    | '+' :: rest => do
      readItems fuel flags names branches (← repeatLast 1 none items) (skipLazy rest)
    | '?' :: rest => do
      readItems fuel flags names branches (← repeatLast 0 (some 1) items) (skipLazy rest)
    | '\x7b' :: rest => do
      let (least, most, rest) ← readBounds flags rest
      readItems fuel flags names branches (← repeatLast least most items) (skipLazy rest)
    | '.' :: rest => do push (.set (← flags.point)) 0 rest
    | '^' :: rest => push (.assert flags.startAnchor) 0 rest
    | '$' :: rest => push (.assert flags.endAnchor) 0 rest
    | '\\' :: rest => do
      match ← readEscape flags rest with
      | (.char c byte, rest) => push (← flags.literal c byte) 0 rest
      | (.set s, rest) => push (.set s) 0 rest
      | (.assertion a, rest) => push (.assert a) 0 rest
    | c :: rest => do push (← flags.literal c false) 0 rest
where
  /-- The pattern read, when the text after it is `rest`. -/
  close (rest : List Char) : Except Fault Reading :=
    let (regex, height) := alternatives (sequence items :: branches)
    .ok ⟨regex, height, names, rest⟩

/-- The flags at the beginning of a pattern. -/
def Flags.initial (dotAll : Bool) : Flags := ⟨false, false, dotAll, false, true, false⟩

/-- Reads a pattern in which a point stands for line ends, too, if `dotAll` holds. -/
def ofChars (limits : Limits) (dotAll : Bool) (cs : List Char) : Except Fault Regex := do
  let reading ← readItems (cs.length + 1) (.initial dotAll) [] [] [] cs
  if !reading.rest.isEmpty then .error .unopenedGroup
  else if limits.height < reading.height then .error .tooDeep
  else if !limits.hasRoom cs reading.regex then .error .tooLarge
  else .ok reading.regex

end QueryRegression.Regex
