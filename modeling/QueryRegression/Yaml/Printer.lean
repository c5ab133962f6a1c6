import QueryRegression.Text.Hex
import QueryRegression.Yaml
import QueryRegression.Yaml.Cursor

/-!
# Writing YAML

How a text is written as the value of an entry: without quotes where it is then read back as the
same text, in single quotes where only its meaning forbids that, as a block where it has line
breaks, and in double quotes with escapes where nothing else is possible.
-/

namespace QueryRegression.Yaml

/-- Whether the character may stand outside of double quotes. -/
def isPrintable (c : Char) : Bool :=
  isPermitted c && !(['\t', '\r', '\u0085', '\ufeff'].contains c)

/-- Whether a character, which follows another or none, ends what stands without quotes, given what
comes after it. -/
def isIndicator (before : Option Char) (c : Char) (after : List Char) : Bool :=
  let isOpen := after.head?.all fun d => isBlank d || isBreak d
  match before with
  | none =>
    ['#', ',', '[', ']', '\x7b', '\x7d', '&', '*', '!', '|', '>', '\'', '"', '%', '@',
      '\x60'].contains c || (['?', ':', '-'].contains c && isOpen)
  | some b => (c = ':' && isOpen) || (c = '#' && (isBlank b || isBreak b))

/-- Whether there is such a character in a text. -/
def hasIndicator (before : Option Char) : List Char → Bool
  | [] => false
  | c :: rest => isIndicator before c rest || hasIndicator (some c) rest

/-- Whether two neighbours in a text satisfy the two conditions. -/
def hasPair (p q : Char → Bool) (cs : List Char) : Bool :=
  (cs.zip (cs.drop 1)).any fun (a, b) => p a && q b

/-- Whether a blank or a break stands at an end of the text. -/
def hasOpenEnd (cs : List Char) : Bool :=
  let isOpen (c : Char) : Bool := c = ' ' || isBreak c
  cs.head?.any isOpen || cs.getLast?.any isOpen

/-- Whether only double quotes can hold the text. -/
def isSpecial (cs : List Char) : Bool := cs.any (!isPrintable ·) || hasPair (· = ' ') isBreak cs

/-- Whether the text may stand without quotes. -/
def isPlainText (cs : List Char) : Bool :=
  !cs.isEmpty && !isSpecial cs && !cs.any isBreak && !hasOpenEnd cs && !hasIndicator none cs &&
    !(['-', '-', '-'].isPrefixOf cs) && !(['.', '.', '.'].isPrefixOf cs)

/-- The characters for `c` in double quotes. -/
def escapeChar (c : Char) : List Char :=
  let code (mark : Char) (width : Nat) : List Char :=
    '\\' :: mark :: (Text.hexDigits width c.toNat).map Char.toUpper
  if isPrintable c && !isBreak c && c ≠ '"' && c ≠ '\\' then [c]
  else
    let short := [('\x00', '0'), ('\x07', 'a'), ('\x08', 'b'), ('\t', 't'), ('\n', 'n'),
      ('\x0b', 'v'), ('\x0c', 'f'), ('\r', 'r'), ('\x1b', 'e'), ('"', '"'), ('\\', '\\'),
      ('\u0085', 'N'), ('\u2028', 'L'), ('\u2029', 'P')]
    match short.lookup c with
    | some e => ['\\', e]
    | none => if c.toNat ≤ 0xFF then code 'x' 2 else code 'u' 4

/-- The text in double quotes. -/
def doubleQuoted (cs : List Char) : List Char := '"' :: cs.flatMap escapeChar ++ ['"']

/-- A text with two blanks before each of its lines that is not empty, where `atStart` says whether
a line begins with it. -/
def indented (atStart : Bool) : List Char → List Char
  | [] => []
  | c :: rest =>
    if isBreak c then c :: indented true rest
    else if atStart then ' ' :: ' ' :: c :: indented false rest
    else c :: indented false rest

/-- The text in single quotes, which are doubled inside. Breaks stand for themselves. -/
def singleQuoted (cs : List Char) : List Char :=
  let doubled := cs.flatMap fun c => if c = '\'' then ['\'', '\''] else [c]
  '\'' :: indented false (doubled ++ ['\''])

/-- The mark for the breaks at the end of a block: there is none, or there are more than one or
nothing else. -/
def endMark (cs : List Char) : List Char :=
  match cs.reverse with
  | [] => ['-']
  | last :: before =>
    if !isBreak last then ['-'] else if before.head?.all isBreak then ['+'] else []

/-- The text as a block, which says how far it is indented where it begins with a blank or a
break. -/
def block (cs : List Char) : List Char :=
  let indent := if cs.head?.any fun c => c = ' ' || isBreak c then ['2'] else []
  '|' :: indent ++ endMark cs ++ '\n' :: indented true cs

/-- The text as the value of an entry, up to the end of its last line. -/
def written (s : String) : String :=
  let cs := s.toList
  .ofList <|
    if cs.contains '\n' then
      if isSpecial cs || cs.getLast? = some ' ' then doubleQuoted cs ++ ['\n']
      else if cs.getLast?.any isBreak then block cs
      else block cs ++ ['\n']
    else if isPlainText cs && !isAmbiguous s then cs ++ ['\n']
    else if isSpecial cs || hasPair isBreak (· = ' ') cs then doubleQuoted cs ++ ['\n']
    else singleQuoted cs ++ ['\n']

end QueryRegression.Yaml
