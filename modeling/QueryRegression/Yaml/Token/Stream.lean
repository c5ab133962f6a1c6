import QueryRegression.Yaml.Token.Scalar
import QueryRegression.Yaml.Token.Tag

/-!
# A text as tokens

`tokens?` cuts a text into tokens. A key without a mark is known for one only by the colon after
it: until then `PossibleKey` holds the place of its first token. Such a key lies in one line and is
short. Blocks are opened and closed by the columns in which their items and keys begin.
-/

namespace QueryRegression.Yaml

/-- The place where a key may have begun. -/
structure PossibleKey where
  /-- Whether nothing but a key can stand there. -/
  isRequired : Bool
  /-- The number of tokens before it. -/
  position : Nat
  place : Cursor

/-- How far a text has been cut into tokens. -/
structure Progress where
  place : Cursor
  tokens : Array Token
  /-- The columns of the open block collections, the innermost first. -/
  blocks : List Nat
  /-- The key that may have begun in the innermost flow collection, or in the blocks if there is
  none. -/
  key : Option PossibleKey
  /-- Likewise for what is around that, one for each open flow collection. -/
  outerKeys : List (Option PossibleKey)
  /-- Whether a key may begin here. -/
  keyAllowed : Bool

namespace Progress

/-- The progress at the beginning of a text. -/
def start (cs : List Char) : Progress := ⟨.start cs, #[], [], none, [], true⟩

/-- Whether a flow collection is open. -/
def inFlow (p : Progress) : Bool := !p.outerKeys.isEmpty

/-- The least column of what lies in the innermost block. -/
def leastColumn (p : Progress) : Nat := p.blocks.head?.elim 0 (· + 1)

/-- Adds a token. -/
def add (p : Progress) (t : Token) : Progress := { p with tokens := p.tokens.push t }

/-- Adds a token of `n` characters, after which a key may begin or not. -/
def pass (p : Progress) (t : Token) (n : Nat) (keyAllowed : Bool) : Progress :=
  { p.add t with place := p.place.advance n, keyAllowed }

/-! ## Blocks -/

/-- Opens a block at a column, unless one is open there or further on. Its token goes to the given
position. -/
def openBlock (p : Progress) (column position : Nat) (t : Token) : Progress :=
  if p.inFlow ∨ column < p.leastColumn then p
  else { p with blocks := column :: p.blocks, tokens := p.tokens.insertIdxIfInBounds position t }

/-- Closes the blocks beyond a column, or all. -/
def closeBlocks (p : Progress) (column : Option Nat) : Progress :=
  if p.inFlow then p
  else
    let isClosed (block : Nat) : Bool := column.all (· < block)
    let closed := (p.blocks.takeWhile isClosed).map fun _ => Token.closeBlock
    { p with blocks := p.blocks.dropWhile isClosed, tokens := p.tokens ++ closed }

/-! ## Keys -/

/-- The greatest number of bytes of a key without a mark, and of what stands between it and its
colon. -/
def keyLimit : Nat := 1024

/-- Whether a key that began at an earlier place can still be one here. -/
def isInReach (p : Progress) (key : PossibleKey) : Bool :=
  p.place.line ≤ key.place.line && p.place.index ≤ key.place.index + keyLimit

/-- What is left of a possible key: none if it is out of reach, which a required key must not be. -/
def stillPossible? (p : Progress) : Option PossibleKey → Option (Option PossibleKey)
  | none => some none
  | some key =>
    if p.isInReach key then some (some key) else if key.isRequired then none else some none

/-- Forgets the keys that are out of reach. -/
def forgetDistant (p : Progress) : Option Progress := do
  return { p with
    key := ← p.stillPossible? p.key
    outerKeys := ← p.outerKeys.mapM p.stillPossible? }

/-- Forgets the key that may have begun, which must not be required. -/
def forgetKey (p : Progress) : Option Progress :=
  if p.key.any (·.isRequired) then none else some { p with key := none }

/-- Notes that a key may begin here. -/
def noteKey (p : Progress) : Option Progress :=
  if !p.keyAllowed then some p
  else do
    let isRequired := !p.inFlow && p.blocks.head? = some p.place.column
    return { ← p.forgetKey with key := some ⟨isRequired, p.tokens.size, p.place⟩ }

/-! ## Tokens -/

/-- Passes over blanks, comments and breaks. Tabs do not count as blanks where a key may begin
outside of flow collections. -/
def skipVoid (fuel : Nat) (p : Progress) : Progress :=
  match fuel with
  | 0 => p
  | fuel + 1 =>
    let isMarked := p.place.column = 0 ∧ p.place.rest.head? = some '\ufeff'
    let k := if isMarked then p.place.advance 1 else p.place
    let k := k.skip fun c => c = ' ' || (c = '\t' && (p.inFlow || !p.keyAllowed))
    match k.skipComment.break? with
    | none => { p with place := k.skipComment }
    | some (_, next) =>
      skipVoid fuel { p with place := next, keyAllowed := p.keyAllowed || !p.inFlow }

/-- Opens a flow collection. -/
def openFlow (p : Progress) (t : Token) : Option Progress := do
  let p ← p.noteKey
  return { p with key := none, outerKeys := p.key :: p.outerKeys }.pass t 1 true

/-- Closes a flow collection. -/
def closeFlow (p : Progress) (t : Token) : Option Progress := do
  let p ← p.forgetKey
  return { p with key := p.outerKeys.head?.join, outerKeys := p.outerKeys.tail }.pass t 1 false

/-- Reads the mark of an item or of a key, which opens a block. -/
def readMark (p : Progress) (t opening : Token) (keyAllowed : Bool) : Option Progress := do
  if !p.inFlow ∧ !p.keyAllowed then none
  else
    let p ← (p.openBlock p.place.column p.tokens.size opening).forgetKey
    return p.pass t 1 keyAllowed

/-- Reads the mark of a value. The key before it gets its mark now. -/
def readValueMark (p : Progress) : Option Progress :=
  match p.key with
  | some key =>
    let p := { p with key := none, tokens := p.tokens.insertIdxIfInBounds key.position .key }
    some ((p.openBlock key.place.column key.position .openBlockMapping).pass .value 1 false)
  | none =>
    if !p.inFlow ∧ !p.keyAllowed then none
    else
      let p := p.openBlock p.place.column p.tokens.size .openBlockMapping
      some (p.pass .value 1 !p.inFlow)

/-- Adds a token with which a key may begin, and goes to the place after it. -/
def finish (p : Progress) (t : Token) (after : Cursor) (keyAllowed : Bool) : Option Progress := do
  return { (← p.noteKey).add t with place := after, keyAllowed }

/-- Reads a scalar in quotes. -/
def readQuotedToken (p : Progress) (quote : Char) : Option Progress := do
  let k := p.place.advance 1
  let (text, after) ← readQuoted quote (k.rest.length + 1) k
  p.finish (.scalar .quoted text) after false

/-- Reads a block scalar. -/
def readBlockToken (p : Progress) (style : ScalarStyle) : Option Progress := do
  let p ← p.forgetKey
  let (text, after) ← readBlock (style = .folded) p.leastColumn (p.place.advance 1)
  return { p.add (.scalar style text) with place := after, keyAllowed := true }

/-- Whether a plain scalar begins at the place. -/
def beginsPlain (p : Progress) : Bool :=
  match p.place.rest with
  | [] => false
  | c :: rest =>
    if c = '-' then !rest.head?.any isBlank
    else if c = '?' ∨ c = ':' then !p.inFlow && !p.place.endsAfter 1
    else
      !isBlank c && !isBreak c && !isFlowMark c &&
        !(['#', '&', '*', '!', '|', '>', '\'', '"', '%', '@', '\x60'].contains c)

/-- Reads a plain scalar. A key may begin in a line after it. -/
def readPlainToken (p : Progress) : Option Progress := do
  let (text, ended, after) ←
    readPlain p.inFlow p.leastColumn (p.place.rest.length + 1) p.place
  p.finish (.scalar .plain text) after ended

/-- Reads a mark that begins or ends a document, or a directive. -/
def readDocumentToken (p : Progress) : Option Progress := do
  let p ← (p.closeBlocks none).forgetKey
  match p.place.rest.head? with
  | some '-' => return p.pass .documentStart 3 false
  | some '.' => return p.pass .documentEnd 3 false
  | _ =>
    let (t, after) ← readDirective (p.place.advance 1)
    return { p.add t with place := after, keyAllowed := false }

/-- Reads the token that begins at the place. -/
def readToken (p : Progress) : Option Progress := do
  let k := p.place
  let isMark := k.endsAfter 1
  match k.rest.head? with
  | none => none
  | some c =>
    if k.isBoundary || (k.column = 0 && c = '%') then p.readDocumentToken
    else if c = '[' then p.openFlow .openSequence
    else if c = '\x7b' then p.openFlow .openMapping
    else if c = ']' then p.closeFlow .closeSequence
    else if c = '\x7d' then p.closeFlow .closeMapping
    else if c = ',' then return (← p.forgetKey).pass .comma 1 true
    else if c = '-' ∧ isMark then p.readMark .item .openBlockSequence true
    else if c = '?' ∧ (p.inFlow ∨ isMark) then p.readMark .key .openBlockMapping !p.inFlow
    else if c = ':' ∧ (p.inFlow ∨ isMark) then p.readValueMark
    else if c = '*' then
      let (name, after) ← readAnchorName (k.advance 1)
      p.finish (.alias name) after false
    else if c = '&' then
      let (name, after) ← readAnchorName (k.advance 1)
      p.finish (.anchor name) after false
    else if c = '!' then
      let (t, after) ← readTag p.inFlow k
      p.finish t after false
    else if c = '|' ∧ !p.inFlow then p.readBlockToken .literal
    else if c = '>' ∧ !p.inFlow then p.readBlockToken .folded
    else if c = '\'' ∨ c = '"' then p.readQuotedToken c
    else if p.beginsPlain then p.readPlainToken
    else none

/-- Reads the tokens up to the end of the text. -/
def readAll (fuel : Nat) (p : Progress) : Option (List Token) :=
  match fuel with
  | 0 => none
  | fuel + 1 => do
    let p ← (p.skipVoid (p.place.rest.length + 1)).forgetDistant
    let p := p.closeBlocks p.place.column
    if p.place.rest.isEmpty then
      return (← (p.closeBlocks none).forgetKey).tokens.toList
    else readAll fuel (← p.readToken)

end Progress

/-- The tokens of a text. -/
def tokens? (cs : List Char) : Option (List Token) :=
  if cs.all isPermitted then (Progress.start cs).readAll (cs.length + 1) else none

end QueryRegression.Yaml
