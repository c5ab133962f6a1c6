import QueryRegression.Json
import QueryRegression.Text.Hex

/-!
# Writing JSON

`compact` writes a value without blanks; `pretty` writes every element and member on a line of its
own, two blanks further in, and empty arrays and objects without a line break. In strings only
the quote, the backslash and control characters are escaped.
-/

namespace QueryRegression.Json

/-- The characters that stand for `c` in a string. -/
def escapeChar (c : Char) : List Char :=
  if c = '"' then ['\\', '"']
  else if c = '\\' then ['\\', '\\']
  else if c = '\x08' then ['\\', 'b']
  else if c = '\x0c' then ['\\', 'f']
  else if c = '\n' then ['\\', 'n']
  else if c = '\r' then ['\\', 'r']
  else if c = '\t' then ['\\', 't']
  else if c.toNat < 0x20 then '\\' :: 'u' :: Text.hexDigits 4 c.toNat
  else [c]

/-- The characters between the quotes of a string. -/
def escape : List Char → List Char
  | [] => []
  | c :: rest => escapeChar c ++ escape rest

/-- A string in quotes. -/
def quoted (s : String) : String := "\"" ++ .ofList (escape s.toList) ++ "\""

/-- The name of a member in quotes. -/
def quotedName (name : Option String) : String := quoted (name.getD "")

mutual

/-- The value without blanks. -/
def compact : Json → String
  | .null => "null"
  | .bool b => if b then "true" else "false"
  | .integer n => toString n
  | .decimal text => text
  | .string s => quoted s
  | .brokenString => quoted ""
  | .array elements => "[" ++ compactElements elements ++ "]"
  | .object members => "\x7b" ++ compactMembers members ++ "\x7d"

/-- Elements, separated by commas. -/
def compactElements : List Json → String
  | [] => ""
  | [e] => e.compact
  | e :: rest => e.compact ++ "," ++ compactElements rest

/-- Members, separated by commas. -/
def compactMembers : List (Option String × Json) → String
  | [] => ""
  | [(name, value)] => quotedName name ++ ":" ++ value.compact
  | (name, value) :: rest =>
    quotedName name ++ ":" ++ value.compact ++ "," ++ compactMembers rest

end

/-- The beginning of a line at the given depth. -/
def newLine (depth : Nat) : String := "\n" ++ .ofList (List.replicate (2 * depth) ' ')

mutual

/-- The value on several lines, of which the first stands at the given depth. -/
def prettyAt (depth : Nat) : Json → String
  | .array [] => "[]"
  | .object [] => "\x7b\x7d"
  | .array elements => "[" ++ prettyElements (depth + 1) elements ++ newLine depth ++ "]"
  | .object members => "\x7b" ++ prettyMembers (depth + 1) members ++ newLine depth ++ "\x7d"
  | .null => "null"
  | .bool b => if b then "true" else "false"
  | .integer n => toString n
  | .decimal text => text
  | .string s => quoted s
  | .brokenString => quoted ""

/-- Elements on lines of their own. -/
def prettyElements (depth : Nat) : List Json → String
  | [] => ""
  | [e] => newLine depth ++ prettyAt depth e
  | e :: rest => newLine depth ++ prettyAt depth e ++ "," ++ prettyElements depth rest

/-- Members on lines of their own. -/
def prettyMembers (depth : Nat) : List (Option String × Json) → String
  | [] => ""
  | [(name, value)] => newLine depth ++ quotedName name ++ ": " ++ prettyAt depth value
  | (name, value) :: rest =>
    newLine depth ++ quotedName name ++ ": " ++ prettyAt depth value ++ "," ++
      prettyMembers depth rest

end

/-- The value on several lines. -/
def pretty (v : Json) : String := prettyAt 0 v

end QueryRegression.Json
