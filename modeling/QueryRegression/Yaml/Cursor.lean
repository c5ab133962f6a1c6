/-!
# Places in a YAML text

A cursor is a place in a text: what comes after it, and where it lies. The characters of YAML are
sorted here into blanks, breaks and those that a text must not hold.
-/

namespace QueryRegression.Yaml

/-! ## Characters -/

/-- Whether the character is a blank. -/
def isBlank (c : Char) : Bool := c = ' ' || c = '\t'

/-- Whether the character breaks a line. -/
def isBreak (c : Char) : Bool := ['\n', '\r', '\u0085', '\u2028', '\u2029'].contains c

/-- Whether the character may stand in a text. -/
def isPermitted (c : Char) : Bool :=
  ['\t', '\n', '\r', '\u0085'].contains c || (0x20 ≤ c.toNat && c.toNat ≤ 0x7E) ||
    (0xA0 ≤ c.toNat && !([0xFFFE, 0xFFFF].contains c.toNat))

/-- Whether the character may stand in a name. -/
def isNamePart (c : Char) : Bool := c.isAlphanum || c = '_' || c = '-'

/-- Whether the character separates the parts of flow collections. -/
def isFlowMark (c : Char) : Bool := [',', '[', ']', '\x7b', '\x7d'].contains c

/-! ## Cursors -/

/-- A place in a text. -/
structure Cursor where
  /-- What comes after the place. -/
  rest : List Char
  /-- The number of bytes before the place. -/
  index : Nat
  line : Nat
  column : Nat

namespace Cursor

/-- The beginning of a text. -/
def start (cs : List Char) : Cursor := ⟨cs, 0, 0, 0⟩

/-- The place `n` characters further on in the line. -/
def advance (k : Cursor) (n : Nat) : Cursor :=
  { k with
    rest := k.rest.drop n
    index := k.index + (k.rest.take n).foldl (· + ·.utf8Size) 0
    column := k.column + n }

/-- The characters in a row that satisfy a condition, which no break does, and the place after
them. -/
def take (k : Cursor) (p : Char → Bool) : List Char × Cursor :=
  let taken := k.rest.takeWhile p
  (taken, k.advance taken.length)

/-- The place after such characters. -/
def skip (k : Cursor) (p : Char → Bool) : Cursor := (k.take p).2

/-- The break at the place, as the character that it stands for, and the beginning of the next
line. -/
def break? (k : Cursor) : Option (Char × Cursor) :=
  match k.rest with
  | '\r' :: '\n' :: rest => some ('\n', ⟨rest, k.index + 2, k.line + 1, 0⟩)
  | c :: rest =>
    if isBreak c then
      let kept := if c = '\u2028' ∨ c = '\u2029' then c else '\n'
      some (kept, ⟨rest, k.index + c.utf8Size, k.line + 1, 0⟩)
    else none
  | [] => none

/-- Whether a word ends `n` characters further on: a blank, a break or the end of the text stands
there. -/
def endsAfter (k : Cursor) (n : Nat) : Bool := (k.rest[n]?).all fun c => isBlank c || isBreak c

/-- Whether a mark that begins or ends a document stands here. -/
def isBoundary (k : Cursor) : Bool :=
  k.column == 0 && (['-', '-', '-'].isPrefixOf k.rest || ['.', '.', '.'].isPrefixOf k.rest) &&
    k.endsAfter 3

/-- The end of the line if a comment begins here. -/
def skipComment (k : Cursor) : Cursor :=
  if k.rest.head? = some '#' then k.skip (!isBreak ·) else k

/-- The beginning of the next line, or the end of the text; only a comment may stand before. -/
def lineEnd? (k : Cursor) : Option Cursor :=
  let k := (k.skip isBlank).skipComment
  match k.break? with
  | some (_, next) => some next
  | none => if k.rest.isEmpty then some k else none

end Cursor
end QueryRegression.Yaml
