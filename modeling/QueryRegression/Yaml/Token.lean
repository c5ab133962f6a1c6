import QueryRegression.Yaml

/-!
# Tokens of YAML

The words and marks of a YAML text. Where a block collection begins and ends is told by the
indentation and has a token of its own; so has a key, with or without a mark before it.
-/

namespace QueryRegression.Yaml

/-- A word or a mark of a text. -/
inductive Token where
  /-- A directive that names a version which is read. -/
  | version
  /-- A directive that declares a handle of tags. -/
  | handle (name expansion : List Char)
  | documentStart
  | documentEnd
  | openBlockSequence
  | openBlockMapping
  | closeBlock
  | openSequence
  | closeSequence
  | openMapping
  | closeMapping
  /-- The mark of an item in a block. -/
  | item
  | comma
  | key
  | value
  | anchor (name : List Char)
  | alias (name : List Char)
  /-- A tag in two parts, of which the first is a handle or empty. -/
  | tag (handle suffix : List Char)
  | scalar (style : ScalarStyle) (text : List Char)
deriving DecidableEq

/-- Whether only a directive is written so. -/
def Token.isDirective : Token → Bool
  | .version | .handle _ _ => true
  | _ => false

end QueryRegression.Yaml
