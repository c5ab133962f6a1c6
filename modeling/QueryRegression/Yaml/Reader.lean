import QueryRegression.Yaml.Token.Stream

/-!
# Reading YAML

`parse?` reads a stream of one document. The tokens of the text form its nodes: an alias, or a
scalar, a sequence or a mapping, before which an anchor and a tag may stand. A node with nothing
but these, and one that is left out, is an empty scalar.
-/

namespace QueryRegression.Yaml

/-- The tokens that are still to be read, with the anchors of the names met so far. -/
structure Pending where
  tokens : List Token
  anchors : List (List Char × Nat)

/-- What stands before a node. -/
structure Marks where
  anchor : Option Nat
  tag : Option (List Char)

/-! ## Anchors and tags -/

/-- Gives a name to the node that begins here: its anchor is the number of other names met before,
or of all names if this is one of them. -/
def Pending.declare (p : Pending) (name : List Char) : Nat × Pending :=
  let anchor := p.anchors.length
  (anchor, { p with anchors := (name, anchor) :: p.anchors.filter (·.1 ≠ name) })

/-- The tag that a handle and a suffix stand for. -/
def expandTag? (handles : List (List Char × List Char)) (handle suffix : List Char) :
    Option (List Char) :=
  if handle.isEmpty then some suffix else (handles.lookup handle).map (· ++ suffix)

/-- Reads an anchor and a tag, each of which may be missing, in any order. -/
def readMarks (handles : List (List Char × List Char)) (p : Pending) : Option (Marks × Pending) :=
  let declared (name : List Char) (tokens : List Token) : Option Nat × Pending :=
    let (anchor, p) := { p with tokens }.declare name
    (some anchor, p)
  match p.tokens with
  | .anchor name :: .tag handle suffix :: rest | .tag handle suffix :: .anchor name :: rest => do
    let (anchor, p) := declared name rest
    return (⟨anchor, ← expandTag? handles handle suffix⟩, p)
  | .anchor name :: rest =>
    let (anchor, p) := declared name rest
    some (⟨anchor, none⟩, p)
  | .tag handle suffix :: rest => do
    return (⟨none, ← expandTag? handles handle suffix⟩, { p with tokens := rest })
  | _ => some (⟨none, none⟩, p)

/-- The tag of a scalar. The tag of an exclamation mark alone says nothing about it. -/
def scalarTag (m : Marks) : Option (List Char) := m.tag.filter (· ≠ ['!'])

/-- The node that has marks only. -/
def Marks.empty (m : Marks) : Yaml := .scalar m.anchor m.tag .plain ""

/-! ## Nodes -/

/-- Whether the next token is one of some. -/
def Pending.isAt (p : Pending) (ts : List Token) : Bool := p.tokens.head?.any ts.contains

/-- The pending tokens but the first. -/
def Pending.next (p : Pending) : Pending := { p with tokens := p.tokens.tail }

mutual

/-- Reads a node. Items without a block of their own are a node where `bareItems` holds. -/
def readNode (handles : List (List Char × List Char)) (fuel : Nat) (bareItems : Bool)
    (p : Pending) : Option (Yaml × Pending) :=
  match fuel with
  | 0 => none
  | fuel + 1 =>
    match p.tokens with
    | .alias name :: _ => (p.anchors.lookup name).map fun anchor => (.alias anchor, p.next)
    | _ => do
      let (marks, p) ← readMarks handles p
      let sequence (read : Option (List Yaml × Pending)) : Option (Yaml × Pending) :=
        read.map fun (items, p) => (.sequence marks.anchor items, p)
      let mapping (read : Option (List (Yaml × Yaml) × Pending)) : Option (Yaml × Pending) :=
        read.map fun (entries, p) => (.mapping marks.anchor entries, p)
      match p.tokens with
      | .scalar style text :: _ =>
        return (.scalar marks.anchor (scalarTag marks) style (.ofList text), p.next)
      | .openSequence :: _ => sequence (readFlowItems handles fuel true p.next)
      | .openMapping :: _ => mapping (readFlowEntries handles fuel true p.next)
      | .openBlockSequence :: _ => sequence (readBlockItems handles fuel p.next)
      | .openBlockMapping :: _ => mapping (readBlockEntries handles fuel p.next)
      | tokens =>
        if bareItems ∧ tokens.head? = some .item then sequence (readBareItems handles fuel p)
        else if marks.anchor.isSome ∨ marks.tag.isSome then return (marks.empty, p)
        else none

/-- Reads a node, which is left out if one of some tokens comes next. -/
def readOptional (handles : List (List Char × List Char)) (fuel : Nat) (bareItems : Bool)
    (ends : List Token) (p : Pending) : Option (Yaml × Pending) :=
  match fuel with
  | 0 => none
  | fuel + 1 => if p.isAt ends then some (empty, p) else readNode handles fuel bareItems p

/-- Reads the items of a block up to its end. -/
def readBlockItems (handles : List (List Char × List Char)) (fuel : Nat) (p : Pending) :
    Option (List Yaml × Pending) :=
  match fuel, p.tokens with
  | fuel + 1, .item :: _ => do
    let (item, p) ← readOptional handles fuel false [.item, .closeBlock] p.next
    let (items, p) ← readBlockItems handles fuel p
    return (item :: items, p)
  | _ + 1, .closeBlock :: _ => some ([], p.next)
  | _, _ => none

/-- Reads items without a block of their own. -/
def readBareItems (handles : List (List Char × List Char)) (fuel : Nat) (p : Pending) :
    Option (List Yaml × Pending) :=
  match fuel, p.tokens with
  | 0, _ => none
  | fuel + 1, .item :: _ => do
    let (item, p) ← readOptional handles fuel false [.item, .key, .value, .closeBlock] p.next
    let (items, p) ← readBareItems handles fuel p
    return (item :: items, p)
  | _ + 1, _ => some ([], p)

/-- Reads the entries of a block up to its end. -/
def readBlockEntries (handles : List (List Char × List Char)) (fuel : Nat) (p : Pending) :
    Option (List (Yaml × Yaml) × Pending) :=
  match fuel, p.tokens with
  | fuel + 1, .key :: _ => do
    let ends := [.key, .value, .closeBlock]
    let (key, p) ← readOptional handles fuel true ends p.next
    let (value, p) ←
      if p.isAt [.value] then readOptional handles fuel true ends p.next else some (empty, p)
    let (entries, p) ← readBlockEntries handles fuel p
    return ((key, value) :: entries, p)
  | _ + 1, .closeBlock :: _ => some ([], p.next)
  | _, _ => none

/-- Reads the items of a flow sequence up to its end; before all but the first stands a comma. -/
def readFlowItems (handles : List (List Char × List Char)) (fuel : Nat) (isFirst : Bool)
    (p : Pending) : Option (List Yaml × Pending) :=
  match fuel with
  | 0 => none
  | fuel + 1 =>
    if p.isAt [.closeSequence] then some ([], p.next)
    else if !isFirst ∧ !p.isAt [.comma] then none
    else
      let p := if isFirst then p else p.next
      if p.isAt [.closeSequence] then some ([], p.next)
      else do
        let (item, p) ←
          if p.isAt [.key] then readPair handles fuel p.next else readNode handles fuel false p
        let (items, p) ← readFlowItems handles fuel false p
        return (item :: items, p)

/-- Reads a single entry among the items of a flow sequence, as a mapping. Where the key is left
out, so is the mark of the value. -/
def readPair (handles : List (List Char × List Char)) (fuel : Nat) (p : Pending) :
    Option (Yaml × Pending) :=
  match fuel with
  | 0 => none
  | fuel + 1 => do
    let (key, p) ←
      if p.isAt [.value, .comma, .closeSequence] then some (empty, p.next)
      else readNode handles fuel false p
    let (value, p) ←
      if p.isAt [.value] then readOptional handles fuel false [.comma, .closeSequence] p.next
      else some (empty, p)
    return (.mapping none [(key, value)], p)

/-- Reads the entries of a flow mapping up to its end; before all but the first stands a comma. A
node without the mark of a key is a key without a value. -/
def readFlowEntries (handles : List (List Char × List Char)) (fuel : Nat) (isFirst : Bool)
    (p : Pending) : Option (List (Yaml × Yaml) × Pending) :=
  match fuel with
  | 0 => none
  | fuel + 1 =>
    if p.isAt [.closeMapping] then some ([], p.next)
    else if !isFirst ∧ !p.isAt [.comma] then none
    else
      let p := if isFirst then p else p.next
      if p.isAt [.closeMapping] then some ([], p.next)
      else do
        let isMarked := p.isAt [.key]
        let (key, p) ←
          if isMarked then
            readOptional handles fuel false [.value, .comma, .closeMapping] p.next
          else readNode handles fuel false p
        let (value, p) ←
          if isMarked ∧ p.isAt [.value] then
            readOptional handles fuel false [.comma, .closeMapping] p.next
          else some (empty, p)
        let (entries, p) ← readFlowEntries handles fuel false p
        return ((key, value) :: entries, p)

end

/-! ## Documents -/

/-- The handles that need no declaration. -/
def commonHandles : List (List Char × List Char) :=
  [(['!'], ['!']), (['!', '!'], "tag:yaml.org,2002:".toList)]

/-- The handles that directives declare, each once, if the version is told at most once. -/
def declaredHandles? (directives : List Token) : Option (List (List Char × List Char)) :=
  let handles := directives.filterMap fun
    | .handle name expansion => some (name, expansion)
    | _ => none
  if directives.count .version ≤ 1 ∧ (handles.map Prod.fst).Nodup then some handles else none

/-- Reads the node of a document and what may follow it: marks of its end. -/
def readRoot (handles : List (List Char × List Char)) (tokens : List Token) : Option Yaml := do
  let (root, p) ←
    readNode (handles ++ commonHandles) (3 * tokens.length + 3) false ⟨tokens, []⟩
  if p.tokens.all (· = .documentEnd) then return root else none

/-- Reads a document. Directives stand only before the mark of its beginning, after which there
need not be a node. -/
def ofTokens? (tokens : List Token) : Option Yaml :=
  match tokens.dropWhile Token.isDirective with
  | .documentStart :: rest => do
    let handles ← declaredHandles? (tokens.takeWhile Token.isDirective)
    if rest.all (· = .documentEnd) then return empty else readRoot handles rest
  | [] => if tokens.isEmpty then some empty else none
  | rest => if rest.length = tokens.length then readRoot [] tokens else none

/-- Reads a stream of one document. -/
def parse? (s : String) : Option Yaml := (tokens? s.toList).bind ofTokens?

end QueryRegression.Yaml
