import QueryRegression.Text.Hex
import QueryRegression.Yaml.Cursor
import QueryRegression.Yaml.Token

/-!
# Anchors, tags and directives

What may stand before a node or a document. A tag is a row of octets, each held as the character
of its number; those beyond ASCII are written as escapes.
-/

namespace QueryRegression.Yaml

/-! ## Tags -/

/-- Whether the character may stand in a tag, which may be enclosed by angle brackets. -/
def isTagPart (enclosed : Bool) (c : Char) : Bool :=
  isNamePart c ||
    [';', '/', '?', ':', '@', '&', '=', '+', '$', '.', '%', '!', '~', '*', '\'', '(',
      ')'].contains c || (enclosed && [',', '[', ']'].contains c)

/-- The number of octets of a character that begins with the given one. -/
def octetCount? (octet : Nat) : Option Nat :=
  if octet < 0x80 then some 1
  else if octet < 0xC0 then none
  else if octet < 0xE0 then some 2
  else if octet < 0xF0 then some 3
  else if octet < 0xF8 then some 4
  else none

/-- The octets that a part of a tag spells, where so many as `pending` must continue a
character. -/
def tagOctets? (pending : Nat) : List Char → Option (List Char)
  | [] => if pending = 0 then some [] else none
  | '%' :: a :: b :: rest => do
    let octet ← Text.hexNumber? 0 [a, b]
    let isNext := 0x80 ≤ octet && octet < 0xC0
    let pending ←
      match pending with
      | 0 => (octetCount? octet).map (· - 1)
      | n + 1 => if isNext then some n else none
    return Char.ofNat octet :: (← tagOctets? pending rest)
  | c :: rest => if pending = 0 ∧ c ≠ '%' then (tagOctets? 0 rest).map (c :: ·) else none

/-- Reads a part of a tag; there may be none. -/
def readTagPart (enclosed : Bool) (k : Cursor) : Option (List Char × Cursor) :=
  let (spelled, k) := k.take (isTagPart enclosed)
  (tagOctets? 0 spelled).map (·, k)

/-- Reads an exclamation mark, a name and another such mark; all but the first may be missing. -/
def readHandle (k : Cursor) : List Char × Cursor :=
  let (name, k) := (k.advance 1).take isNamePart
  if k.rest.head? = some '!' then ('!' :: name ++ ['!'], k.advance 1) else ('!' :: name, k)

/-- Whether what was read so can only be a handle. -/
def isHandle (cs : List Char) : Bool := 1 < cs.length && cs.getLast? = some '!'

/-- Reads a tag. -/
def readTag (inFlow : Bool) (k : Cursor) : Option (Token × Cursor) := do
  let (tag, k) ←
    if ['!', '<'].isPrefixOf k.rest then do
      let (suffix, k) ← readTagPart true (k.advance 2)
      if suffix.isEmpty ∨ k.rest.head? ≠ some '>' then none
      else pure (Token.tag [] suffix, k.advance 1)
    else do
      let (handle, k) := readHandle k
      let (suffix, k) ← readTagPart false k
      if isHandle handle then
        if suffix.isEmpty then none else pure (Token.tag handle suffix, k)
      else if (handle.drop 1 ++ suffix).isEmpty then pure (Token.tag [] ['!'], k)
      else pure (Token.tag ['!'] (handle.drop 1 ++ suffix), k)
  if k.endsAfter 0 ∨ inFlow ∧ k.rest.head? = some ',' then return (tag, k) else none

/-! ## Anchors -/

/-- Reads the name of an anchor after its mark. -/
def readAnchorName (k : Cursor) : Option (List Char × Cursor) :=
  let (name, k) := k.take isNamePart
  let isClosed :=
    k.endsAfter 0 || k.rest.head?.any ['?', ':', ',', ']', '\x7d', '%', '@', '\x60'].contains
  if name.isEmpty ∨ !isClosed then none else some (name, k)

/-! ## Directives -/

/-- Reads a number of at most nine digits. -/
def readNumber (k : Cursor) : Option (Nat × Cursor) :=
  let (digits, k) := k.take Char.isDigit
  if digits.isEmpty ∨ 9 < digits.length then none
  else some (digits.foldl (fun n c => 10 * n + (c.toNat - 48)) 0, k)

/-- Reads a version, of which there are two. -/
def readVersion (k : Cursor) : Option (Token × Cursor) := do
  let (major, k) ← readNumber k
  if k.rest.head? ≠ some '.' then none
  else
    let (minor, k) ← readNumber (k.advance 1)
    if major = 1 ∧ (minor = 1 ∨ minor = 2) then return (.version, k) else none

/-- Reads a handle and what it stands for. -/
def readDeclaration (k : Cursor) : Option (Token × Cursor) := do
  if k.rest.head? ≠ some '!' then none
  else
    let (name, k) := readHandle k
    if !isHandle name ∧ name ≠ ['!'] ∨ !k.rest.head?.any isBlank then none
    else
      let (expansion, k) ← readTagPart true (k.skip isBlank)
      if expansion.isEmpty ∨ !k.endsAfter 0 then none else return (.handle name expansion, k)

/-- Reads a directive after its mark, up to the end of the line. -/
def readDirective (k : Cursor) : Option (Token × Cursor) := do
  let (name, k) := k.take isNamePart
  let (token, k) ←
    if !k.endsAfter 0 then none
    else if name = "YAML".toList then readVersion (k.skip isBlank)
    else if name = "TAG".toList then readDeclaration (k.skip isBlank)
    else none
  return (token, ← k.lineEnd?)

end QueryRegression.Yaml
