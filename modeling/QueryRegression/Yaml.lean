import QueryRegression.Number.Binary.Reader
import QueryRegression.Text.Hex

/-!
# YAML documents

The data of a YAML document. What a scalar without quotes stands for is decided by its text: it may
be null, a truth value, a number or a text.

A node may have an anchor, by which an alias means it. Anchors are numbers here, and `resolve?`
finds the node for an alias.
-/

namespace QueryRegression

/-- How a scalar is written. -/
inductive ScalarStyle where
  | plain
  | quoted
  /-- In lines of which the breaks are kept. -/
  | literal
  /-- In lines that are joined. -/
  | folded
deriving DecidableEq

/-- A node of a YAML document. Of tags, those of scalars are kept. -/
inductive Yaml where
  | scalar (anchor : Option Nat) (tag : Option (List Char)) (style : ScalarStyle) (text : String)
  | sequence (anchor : Option Nat) (items : List Yaml)
  | mapping (anchor : Option Nat) (entries : List (Yaml × Yaml))
  | alias (anchor : Nat)

namespace Yaml

/-- The node that is not there. -/
def empty : Yaml := .scalar none none .plain ""

/-! ## Aliases -/

/-- The anchor of a node. -/
def anchor : Yaml → Option Nat
  | .scalar anchor _ _ _ | .sequence anchor _ | .mapping anchor _ => anchor
  | .alias _ => none

mutual

/-- A node and the nodes inside it, in the order in which they begin. -/
def nodes : Yaml → List Yaml
  | .scalar anchor tag style text => [.scalar anchor tag style text]
  | .sequence anchor items => .sequence anchor items :: nodesOfItems items
  | .mapping anchor entries => .mapping anchor entries :: nodesOfEntries entries
  | .alias anchor => [.alias anchor]

/-- The nodes of items. -/
def nodesOfItems : List Yaml → List Yaml
  | [] => []
  | item :: items => nodes item ++ nodesOfItems items

/-- The nodes of entries. -/
def nodesOfEntries : List (Yaml × Yaml) → List Yaml
  | [] => []
  | (key, value) :: entries => nodes key ++ nodes value ++ nodesOfEntries entries

end

/-- The node that is meant by a node of a document: for an alias, the last that has its anchor. -/
def resolve? (root : Yaml) : Yaml → Option Yaml
  | .alias anchor => root.nodes.reverse.find? (·.anchor = some anchor)
  | node => some node

/-! ## Tags -/

/-- The tag of null. -/
def nullTag : List Char := "tag:yaml.org,2002:null".toList

/-- The tag of integers. -/
def integerTag : List Char := "tag:yaml.org,2002:int".toList

/-! ## The text of plain scalars -/

/-- Whether the text is a word for null. -/
def isNullWord (s : String) : Bool := ["null", "Null", "NULL", "~"].contains s

/-- Whether the scalar without quotes stands for null. -/
def isNullText (s : String) : Bool := s.isEmpty || isNullWord s

/-- Whether the scalar without quotes is a truth value. -/
def isBooleanText (s : String) : Bool :=
  ["true", "True", "TRUE", "false", "False", "FALSE"].contains s

/-- The text after a sign. -/
def afterSign : List Char → List Char
  | '-' :: rest | '+' :: rest => rest
  | rest => rest

/-- Whether the text begins with a sign. -/
def isSigned (cs : List Char) : Bool := (afterSign cs).length < cs.length

/-- Whether the text is all digits, more than one of them, and begins with a zero; such a text is
no number. -/
def isZeroLed (cs : List Char) : Bool :=
  match afterSign cs with
  | '0' :: rest => !rest.isEmpty && rest.all Char.isDigit
  | _ => false

/-- The value of digits to a base; there is at least one. -/
def digitsTo? (base : Nat) (cs : List Char) : Option Nat :=
  if cs.isEmpty then none
  else
    (cs.mapM fun c => (Text.hexValue? c).filter (· < base)).map fun digits =>
      digits.foldl (base * · + ·) 0

/-- The value of digits that may have a mark of their base in front. -/
def magnitude? : List Char → Option Nat
  | '0' :: 'x' :: rest => digitsTo? 16 rest
  | '0' :: 'o' :: rest => digitsTo? 8 rest
  | '0' :: 'b' :: rest => digitsTo? 2 rest
  | cs => if isZeroLed cs then none else digitsTo? 10 cs

/-- The natural number of 64 bits that a scalar without quotes stands for. -/
def natOfText? (s : String) : Option Nat :=
  let digits :=
    match s.toList with
    | '+' :: rest => rest
    | rest => rest
  (magnitude? digits).filter (· < 2 ^ 64)

/-- Whether the scalar without quotes is an integer of 128 bits. -/
def isIntegerText (s : String) : Bool :=
  match s.toList with
  | '-' :: rest => (magnitude? rest).any (· ≤ 2 ^ 127)
  | '+' :: rest => (magnitude? rest).any (· < 2 ^ 128)
  | rest => (magnitude? rest).any (· < 2 ^ 128)

/-- Whether the scalar without quotes is a number that may have a fraction, or a word for one. -/
def isFloatText (s : String) : Bool :=
  let cs := s.toList
  let rest := if cs.head? = some '+' then cs.drop 1 else cs
  let isWord := [".inf", ".Inf", ".INF"].contains (String.ofList rest) ||
    ["-.inf", "-.Inf", "-.INF", ".nan", ".NaN", ".NAN"].contains s
  let isNumber := (Binary.ofChars? rest : Option Binary64).any fun x => !x.isNaN && !x.isInfinite
  !(cs.head? = some '+' && isSigned rest) && !isZeroLed cs && (isWord || isNumber)

/-- Whether a text without quotes would be read as something else than a text, or could be. -/
def isAmbiguous (s : String) : Bool :=
  isNullText s || isBooleanText s || isIntegerText s || isFloatText s || isZeroLed s.toList

end Yaml
end QueryRegression
