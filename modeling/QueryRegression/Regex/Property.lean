import QueryRegression.Regex.AgeTable
import QueryRegression.Regex.BreakTable
import QueryRegression.Regex.CategoryTable
import QueryRegression.Regex.PropertyTable
import QueryRegression.Regex.ScriptTable
import QueryRegression.Regex.WordTable
import QueryRegression.Text.LowerCase.Table

/-!
# Named sets of characters

Sets of characters by the names under which patterns refer to them: properties of Unicode and the
ASCII classes. Names of properties are compared without case, blanks, hyphens and underscores. A
property is named alone, or with one of its values: a general category, a script, an age, or a
class of characters at which text is divided.
-/

namespace QueryRegression.Regex

open Text

/-! ## White space and ASCII classes -/

/-- The white space of Unicode. -/
def blankSet : CharSet :=
  ⟨[(0x9, 0xD), (0x20, 0x20), (0x85, 0x85), (0xA0, 0xA0), (0x1680, 0x1680), (0x2000, 0x200A),
    (0x2028, 0x2029), (0x202F, 0x202F), (0x205F, 0x205F), (0x3000, 0x3000)]⟩

/-- The ASCII class of a name. -/
def asciiClass? (name : String) : Option CharSet :=
  match name with
  | "alnum" => some ⟨[(0x30, 0x39), (0x41, 0x5A), (0x61, 0x7A)]⟩
  | "alpha" => some ⟨[(0x41, 0x5A), (0x61, 0x7A)]⟩
  | "ascii" => some ⟨[(0, 0x7F)]⟩
  | "blank" => some ⟨[(0x9, 0x9), (0x20, 0x20)]⟩
  | "cntrl" => some ⟨[(0, 0x1F), (0x7F, 0x7F)]⟩
  | "digit" => some ⟨[(0x30, 0x39)]⟩
  | "graph" => some ⟨[(0x21, 0x7E)]⟩
  | "lower" => some ⟨[(0x61, 0x7A)]⟩
  | "print" => some ⟨[(0x20, 0x7E)]⟩
  | "punct" => some ⟨[(0x21, 0x2F), (0x3A, 0x40), (0x5B, 0x60), (0x7B, 0x7E)]⟩
  | "space" => some ⟨[(0x9, 0xD), (0x20, 0x20)]⟩
  | "upper" => some ⟨[(0x41, 0x5A)]⟩
  | "word" => some ⟨[(0x30, 0x39), (0x41, 0x5A), (0x5F, 0x5F), (0x61, 0x7A)]⟩
  | "xdigit" => some ⟨[(0x30, 0x39), (0x41, 0x46), (0x61, 0x66)]⟩
  | _ => none

/-! ## General categories and scripts -/

/-- The general categories that unite others. -/
def categoryUnion? (name : String) : Option (List String) :=
  match name with
  | "c" | "other" => some ["cc", "cf", "co", "cn"]
  | "l" | "letter" => some ["lu", "ll", "lt", "lm", "lo"]
  | "lc" | "casedletter" => some ["lu", "ll", "lt"]
  | "m" | "mark" | "combiningmark" => some ["mc", "me", "mn"]
  | "n" | "number" => some ["nd", "nl", "no"]
  | "p" | "punctuation" | "punct" => some ["pc", "pd", "pe", "pf", "pi", "po", "ps"]
  | "s" | "symbol" => some ["sc", "sk", "sm", "so"]
  | "z" | "separator" => some ["zl", "zp", "zs"]
  | _ => none

/-- All code points with a general category of their own. -/
def assignedSet : CharSet :=
  categoryTable.foldl (fun s entry => s.union (tableSet entry.2)) .empty

/-- A general category of two letters. -/
def category? (name : String) : Option CharSet :=
  if name = "cn" ∨ name = "unassigned" then some assignedSet.complement
  else tableEntry? categoryTable name

/-- A general category. -/
def generalCategory? (name : String) : Option CharSet :=
  match name with
  | "any" => some .full
  | "assigned" => some assignedSet
  | "ascii" => some ⟨[(0, 0x7F)]⟩
  | _ =>
    match categoryUnion? name with
    | some names => some ((names.filterMap category?).foldl .union .empty)
    | none => category? name

/-- The characters of a script. -/
def script? (name : String) : Option CharSet := tableEntry? scriptTable name

/-- The characters that are used in a script: its own, unless scripts are listed for them, and
those for which it is listed. -/
def extendedScript? (name : String) : Option CharSet := do
  let (names, lines) ← scriptTable.find? (·.1.contains name)
  let unite (entries : List (List String × List String)) : CharSet :=
    entries.foldl (fun s entry => s.union (tableSet entry.2)) .empty
  let isUser (entry : List String × List String) : Bool := names.any entry.1.contains
  return ((tableSet lines).diff (unite extensionTable)).union (unite (extensionTable.filter isUser))

/-! ## Properties -/

/-- A set that is no recipe's. -/
def plainSet? (name : String) : Option CharSet :=
  match name with
  | "alphabetic" | "alpha" => some alphabeticSet
  | "whitespace" | "wspace" | "space" => some blankSet
  | "cased" => some ⟨casedRanges⟩
  | "caseignorable" | "ci" => some ⟨caseIgnorableRanges⟩
  | _ => generalCategory? name <|> script? name

/-- The set of characters with a property that needs no value, a general category or a script. -/
def namedSet? (name : String) : Option CharSet := madeSet? plainSet? propertyTable name

/-- A class of characters out of a list. -/
def breakClass? (table : List Recipe) (name : String) : Option CharSet :=
  if table.any (·.names.contains name) then madeSet? namedSet? table name else none

/-- The characters of a version, which has those of the versions before it. -/
def age? (name : String) : Option CharSet :=
  let before := ageTable.takeWhile (!·.1.contains name)
  (ageTable[before.length]?).map fun entry =>
    (entry :: before).foldl (fun s entry => s.union (tableSet entry.2)) .empty

/-! ## Names in patterns -/

/-- The name in small letters without blanks, hyphens, underscores and characters beyond ASCII, and
without `is` at the beginning, unless only the letter `c` comes after it. -/
def normalName (name : List Char) : String :=
  let normal (cs : List Char) : List Char :=
    (cs.filter fun c => c ≠ ' ' && c ≠ '_' && c ≠ '-' && c.toNat < 0x80).map Char.toLower
  let bare :=
    match name with
    | i :: s :: rest => if normal [i, s] = ['i', 's'] then normal rest else normal name
    | _ => normal name
  .ofList (if bare = ['c'] ∧ bare ≠ normal name then normal name else bare)

/-- The set of characters with a property, named alone. -/
def namedProperty? (name : List Char) : Option CharSet := namedSet? (normalName name)

/-- The set of characters with a value of a property. -/
def propertyValue? (property value : List Char) : Option CharSet :=
  let value := normalName value
  match normalName property with
  | "generalcategory" | "gc" => generalCategory? value
  | "script" | "sc" => script? value
  | "scriptextensions" | "scx" => extendedScript? value
  | "age" => age? value
  | "graphemeclusterbreak" | "gcb" => breakClass? clusterTable value
  | "wordbreak" | "wb" => breakClass? wordBreakTable value
  | "sentencebreak" | "sb" => breakClass? sentenceTable value
  | _ => none

end QueryRegression.Regex
