import QueryRegression.Regex.Flags
import QueryRegression.Regex.Property
import QueryRegression.Text.Hex

/-!
# Escapes in patterns

What a backslash and the characters after it stand for: a character, a set of characters or an
assertion. A letter without a meaning is an error; so is a digit, which would refer back.
-/

namespace QueryRegression.Regex

open Text

/-- What an escape stands for. -/
inductive Escape where
  /-- A character; `byte` holds if it was named by two hexadecimal digits. -/
  | char (c : Char) (byte : Bool)
  | set (s : CharSet)
  | assertion (a : Assertion)

/-- Characters that have a meaning of their own in patterns. -/
def isMeta (c : Char) : Bool :=
  ['\\', '.', '+', '*', '?', '(', ')', '|', '[', ']', '\x7b', '\x7d', '^', '$', '#', '&', '-',
    '~'].contains c

/-- Characters that an escape leaves as they are. -/
def isEscapable (c : Char) : Bool :=
  isMeta c || (c.toNat < 0x80 && !c.isAlphanum && c ≠ '<' && c ≠ '>')

/-! ## Code points -/

/-- Reads so many hexadecimal digits. -/
def readHex (flags : Flags) (value : Nat) : Nat → List Char → Except Fault (Nat × List Char)
  | 0, cs => .ok (value, cs)
  | n + 1, cs =>
    match flags.next cs with
    | [] => .error .invalidEscape
    | c :: rest =>
      match Text.hexValue? c with
      | none => .error .invalidEscape
      | some d => readHex flags (16 * value + d) n rest

/-- Reads hexadecimal digits up to a closing brace; there is at least one. -/
def readHexBrace (flags : Flags) (value : Option Nat) (fuel : Nat) (cs : List Char) :
    Except Fault (Nat × List Char) :=
  match fuel, flags.next cs with
  | 0, _ | _, [] => .error .invalidEscape
  | fuel + 1, c :: rest =>
    if c = '\x7d' then
      match value with
      | some n => .ok (n, rest)
      | none => .error .invalidEscape
    else
      match Text.hexValue? c with
      | none => .error .invalidEscape
      | some d => readHexBrace flags (some (16 * value.getD 0 + d)) fuel rest

/-- Reads the name of a code point, which has the given number of digits or is set in braces. -/
def readCodePoint (flags : Flags) (digits : Nat) (cs : List Char) :
    Except Fault (Escape × List Char) := do
  let (value, byte, rest) ←
    match flags.next cs with
    | '\x7b' :: rest => do
      let (value, rest) ← readHexBrace flags none (rest.length + 1) rest
      pure (value, false, rest)
    | rest => do
      let (value, rest) ← readHex flags 0 digits rest
      pure (value, digits == 2, rest)
  match Text.charOfCode? value with
  | some c => return (.char c byte, rest)
  | none => throw .invalidEscape

/-! ## Properties -/

/-- Reads the name of a property up to a closing brace. -/
def readPropertyName (flags : Flags) (name : List Char) (fuel : Nat) (cs : List Char) :
    Except Fault (List Char × List Char) :=
  match fuel, flags.next cs with
  | 0, _ | _, [] => .error .invalidEscape
  | fuel + 1, c :: rest =>
    if c = '\x7d' then .ok (name.reverse, rest) else readPropertyName flags (c :: name) fuel rest

/-- The place of the first of some separators in a name, and its length. -/
def separator? (name : List Char) : Option (Nat × Nat) :=
  match (name.zip (name.drop 1)).findIdx? (· == ('!', '=')) with
  | some i => some (i, 2)
  | none =>
    match name.findIdx? (· == ':') with
    | some i => some (i, 1)
    | none => (name.findIdx? (· == '=')).map (·, 1)

/-- The characters of a property that is given by its name or by its name and a value. -/
def propertySet (flags : Flags) (negated : Bool) (name : List Char) : Except Fault CharSet := do
  let (found, negated) :=
    match separator? name with
    | none => (namedProperty? name, negated)
    | some (i, length) =>
      (propertyValue? (name.take i) (name.drop (i + length)), negated != (length == 2))
  match found with
  | some s =>
    if flags.unicode then flags.closeClass negated s else throw .unicodeNotAllowed
  | none => throw .unknownProperty

/-- Reads a property. -/
def readProperty (flags : Flags) (negated : Bool) (cs : List Char) :
    Except Fault (Escape × List Char) := do
  match flags.next cs with
  | [] | '\\' :: _ => throw .invalidEscape
  | '\x7b' :: rest =>
    let (name, rest) ← readPropertyName flags [] (rest.length + 1) rest
    return (.set (← propertySet flags negated name), rest)
  | c :: rest => return (.set (← propertySet flags negated [c]), rest)

/-! ## Classes and edges of words -/

/-- The set of digits, blanks or word characters. -/
def shorthandSet (flags : Flags) (negated : Bool) (unicode ascii : CharSet) :
    Except Fault CharSet :=
  let s := if flags.unicode then unicode else ascii
  flags.checked (if negated then flags.complement s else s)

/-- Characters that the name of an edge of a word may have. -/
def isEdgeChar (c : Char) : Bool := c.isAlpha || c == '-'

/-- Reads the name of an edge of a word up to a closing brace. -/
def readEdgeName (flags : Flags) (name : List Char) (fuel : Nat) (cs : List Char) :
    Except Fault (List Char × List Char) :=
  match fuel, cs with
  | 0, _ | _, [] => .error .invalidEscape
  | fuel + 1, c :: rest =>
    if isEdgeChar c then readEdgeName flags (c :: name) fuel (flags.next rest)
    else if c = '\x7d' then .ok (name.reverse, rest)
    else .error .invalidEscape

/-- Reads what may follow the sign for an edge of a word: the kind of edge in braces. Braces that
begin in another way belong to a count of repetitions. -/
def readEdge (flags : Flags) (cs : List Char) : Except Fault (WordEdge × List Char) := do
  match cs with
  | '\x7b' :: rest =>
    match flags.next rest with
    | [] => throw .invalidEscape
    | c :: more =>
      if !isEdgeChar c then return (.boundary, cs)
      else
        let (name, rest) ← readEdgeName flags [] (more.length + 2) (c :: more)
        match String.ofList name with
        | "start" => return (.start, rest)
        | "end" => return (.stop, rest)
        | "start-half" => return (.startHalf, rest)
        | "end-half" => return (.stopHalf, rest)
        | _ => throw .invalidEscape
  | _ => return (.boundary, cs)

/-! ## All escapes -/

/-- The control character that a letter stands for. -/
def controlChar? : Char → Option Char
  | 'a' => some '\x07'
  | 'f' => some '\x0c'
  | 't' => some '\t'
  | 'n' => some '\n'
  | 'r' => some '\r'
  | 'v' => some '\x0b'
  | _ => none

/-- The blanks of ASCII. -/
def asciiBlankSet : CharSet := ⟨[(0x9, 0xD), (0x20, 0x20)]⟩

/-- Reads an escape after its backslash. -/
def readEscape (flags : Flags) : List Char → Except Fault (Escape × List Char)
  | [] => .error .invalidEscape
  | c :: rest => do
    if c.isDigit then throw .backReference
    match c with
    | 'x' => readCodePoint flags 2 rest
    | 'u' => readCodePoint flags 4 rest
    | 'U' => readCodePoint flags 8 rest
    | 'p' => readProperty flags false rest
    | 'P' => readProperty flags true rest
    | 'd' => return (.set (← shorthandSet flags false digitSet (.range 0x30 0x39)), rest)
    | 'D' => return (.set (← shorthandSet flags true digitSet (.range 0x30 0x39)), rest)
    | 's' => return (.set (← shorthandSet flags false blankSet asciiBlankSet), rest)
    | 'S' => return (.set (← shorthandSet flags true blankSet asciiBlankSet), rest)
    | 'w' => return (.set (← shorthandSet flags false wordSet asciiWordSet), rest)
    | 'W' => return (.set (← shorthandSet flags true wordSet asciiWordSet), rest)
    | 'A' => return (.assertion .textStart, rest)
    | 'z' => return (.assertion .textEnd, rest)
    | 'b' =>
      let (edge, rest) ← readEdge flags rest
      return (.assertion (.word edge flags.unicode), rest)
    | 'B' =>
      if flags.unicode then return (.assertion (.word .noBoundary true), rest)
      else throw .notText
    | '<' => return (.assertion (.word .start flags.unicode), rest)
    | '>' => return (.assertion (.word .stop flags.unicode), rest)
    | _ =>
      match controlChar? c with
      | some control => return (.char control false, rest)
      | none => if isEscapable c then return (.char c false, rest) else throw .invalidEscape

end QueryRegression.Regex
