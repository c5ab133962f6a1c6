import QueryRegression.Regex.Escape

/-!
# Character classes in brackets

A class lists characters, ranges, escapes, named ASCII classes and further classes. Lists may be
joined by `&&` (both), `--` (the first only) and `~~` (one of them), from left to right. A
bracket that comes first and hyphens that come first stand for themselves. The depth of a class is
kept beside its members: it counts brackets, signs that join lists, and lists of several items.
-/

namespace QueryRegression.Regex

open Text

/-- How two lists in a class are joined. -/
inductive ClassOperation where
  | both
  | firstOnly
  | oneOf

/-- What was read of a class, with its depth. -/
structure ClassPart where
  members : CharSet
  height : Nat

/-- A list in a class, with the part before it that waits to be joined with it. -/
structure ClassState where
  pending : Option (ClassOperation × ClassPart)
  members : CharSet
  /-- The number of items in the list. -/
  items : Nat
  /-- The depth of the deepest item. -/
  height : Nat

namespace ClassState

/-- The beginning of a list behind the given part. -/
def start (pending : Option (ClassOperation × ClassPart)) : ClassState := ⟨pending, .empty, 0, 0⟩

/-- The state with one more item in the list. -/
def add (state : ClassState) (item : ClassPart) : ClassState :=
  { state with
    members := state.members.union item.members
    items := state.items + 1
    height := max state.height item.height }

/-- The list read last; several items are deeper than one. -/
def list (state : ClassState) : ClassPart :=
  ⟨state.members, if 1 < state.items then state.height + 1 else state.height⟩

/-- Everything so far. -/
def joined (flags : Flags) (state : ClassState) : ClassPart :=
  match state.pending with
  | none => state.list
  | some (operation, first) =>
    let a := flags.fold first.members
    let b := flags.fold state.members
    let members :=
      match operation with
      | .both => a.inter b
      | .firstOnly => a.diff b
      | .oneOf => a.symmDiff b
    ⟨members, max first.height state.list.height + 1⟩

/-- The state after a sign that joins lists. -/
def operate (flags : Flags) (state : ClassState) (operation : ClassOperation) : ClassState :=
  .start (some (operation, state.joined flags))

end ClassState

/-- The character of an item in a class. -/
def classChar (flags : Flags) (c : Char) : Except Fault Nat :=
  if flags.unicode || c.toNat < 0x80 then .ok c.toNat else .error .unicodeNotAllowed

/-- Reads one character or escape. -/
def readClassItem (flags : Flags) : List Char → Except Fault (Escape × List Char)
  | [] => .error .unclosedClass
  | '\\' :: rest => readEscape flags rest
  | c :: rest => .ok (.char c false, rest)

/-- Whether a hyphen after an item begins a range: neither a bracket nor a hyphen follows it. -/
def beginsRange (flags : Flags) (afterHyphen : List Char) : Bool :=
  match flags.next afterHyphen with
  | ']' :: _ | '-' :: _ => false
  | _ => true

/-- Reads one item or a range of characters. -/
def readClassRange (flags : Flags) (cs : List Char) : Except Fault (CharSet × List Char) := do
  let (first, rest) ← readClassItem flags cs
  let single : Except Fault (CharSet × List Char) :=
    match first with
    | .char c _ => do return (.single (← classChar flags c), flags.next rest)
    | .set s => .ok (s, flags.next rest)
    | .assertion _ => .error .invalidClassItem
  match flags.next rest with
  | [] => throw .unclosedClass
  | '-' :: afterHyphen =>
    if !beginsRange flags afterHyphen then single
    else
      let (last, rest) ← readClassItem flags (flags.next afterHyphen)
      match first, last with
      | .char a _, .char b _ =>
        if a.toNat ≤ b.toNat then
          return (.range (← classChar flags a) (← classChar flags b), rest)
        else throw .invalidRange
      | _, _ => throw .invalidClassItem
  | _ => single

/-- The named ASCII class that begins after an opening bracket, if one does. -/
def readAsciiClass? (flags : Flags) (cs : List Char) :
    Option (Except Fault CharSet × List Char) := do
  match cs with
  | ':' :: rest =>
    let (negated, rest) :=
      match rest with
      | '^' :: rest => (true, rest)
      | rest => (false, rest)
    match rest.dropWhile (· ≠ ':') with
    | ':' :: ']' :: after =>
      let s ← asciiClass? (.ofList (rest.takeWhile (· ≠ ':')))
      return (flags.closeClass negated s, after)
    | _ => none
  | _ => none

/-- The state after the hyphens at the beginning of a text, and the text after them. -/
def leadingHyphens (flags : Flags) (fuel : Nat) (state : ClassState) (cs : List Char) :
    ClassState × List Char :=
  match fuel, cs with
  | fuel + 1, '-' :: rest =>
    leadingHyphens flags fuel (state.add ⟨.single '-'.toNat, 0⟩) (flags.next rest)
  | _, _ => (state, cs)

/-- Reads what may stand at the beginning of a class: its negation, hyphens, a closing bracket. -/
def openClass (flags : Flags) (cs : List Char) : Bool × ClassState × List Char :=
  let (negated, rest) :=
    match flags.next cs with
    | '^' :: rest => (true, flags.next rest)
    | rest => (false, rest)
  let (state, rest) := leadingHyphens flags rest.length (.start none) rest
  match state.items, rest with
  | 0, ']' :: rest => (negated, state.add ⟨.single ']'.toNat, 0⟩, rest)
  | _, _ => (negated, state, rest)

mutual

/-- Reads a class after its opening bracket. -/
def readClass (flags : Flags) (fuel : Nat) (cs : List Char) :
    Except Fault (ClassPart × List Char) :=
  match fuel with
  | 0 => .error .tooDeep
  | fuel + 1 => do
    let (negated, state, rest) := openClass flags cs
    let (content, rest) ← readClassItems flags fuel state rest
    return (⟨← flags.closeClass negated content.members, content.height + 1⟩, rest)

/-- Reads the rest of a class up to its closing bracket. -/
def readClassItems (flags : Flags) (fuel : Nat) (state : ClassState) (cs : List Char) :
    Except Fault (ClassPart × List Char) :=
  match fuel, flags.next cs with
  | 0, _ => .error .tooDeep
  | _ + 1, [] => .error .unclosedClass
  | _ + 1, ']' :: rest => .ok (state.joined flags, rest)
  | fuel + 1, '&' :: '&' :: rest => readClassItems flags fuel (state.operate flags .both) rest
  | fuel + 1, '-' :: '-' :: rest => readClassItems flags fuel (state.operate flags .firstOnly) rest
  | fuel + 1, '~' :: '~' :: rest => readClassItems flags fuel (state.operate flags .oneOf) rest
  | fuel + 1, '[' :: rest =>
    match readAsciiClass? flags rest with
    | some (s, rest) => do readClassItems flags fuel (state.add ⟨← s, 0⟩) rest
    | none => do
      let (inner, rest) ← readClass flags fuel rest
      readClassItems flags fuel (state.add inner) rest
  | fuel + 1, cs => do
    let (s, rest) ← readClassRange flags cs
    readClassItems flags fuel (state.add ⟨s, 0⟩) rest

end

end QueryRegression.Regex
