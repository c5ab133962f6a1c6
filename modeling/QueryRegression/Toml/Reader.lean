import QueryRegression.Calendar.TimeOfDay
import QueryRegression.Number.Binary.Reader
import QueryRegression.Number.Integer
import QueryRegression.Text.Hex
import QueryRegression.Toml

/-!
# Reading TOML

`parse?` reads a document: lines with a key and a value, headings of tables, and comments. A key is
defined once; integers have 64 bits; nesting is limited.
-/

namespace QueryRegression.Toml

/-! ## Blanks, comments and lines -/

/-- Whether the character may stand in a comment or a string of one line. -/
def isPlain (c : Char) : Bool := c = '\t' || (0x20 ≤ c.toNat && c ≠ '\x7f')

/-- The text after blanks in a line. -/
def skipSpace (cs : List Char) : List Char := cs.dropWhile fun c => c = ' ' || c = '\t'

/-- The text after a line break, if there is one. -/
def lineBreak? : List Char → Option (List Char)
  | '\n' :: rest | '\r' :: '\n' :: rest => some rest
  | _ => none

/-- The text after blanks and a comment. -/
def skipComment (cs : List Char) : List Char :=
  match skipSpace cs with
  | '#' :: rest => rest.dropWhile isPlain
  | rest => rest

/-- The text after the end of a line, before which only a comment may stand. -/
def lineEnd? (cs : List Char) : Option (List Char) :=
  match skipComment cs with
  | [] => some []
  | rest => lineBreak? rest

/-- The text after blanks, comments and line breaks; `fuel` bounds the number of lines. -/
def skipLines (fuel : Nat) (cs : List Char) : List Char :=
  match fuel with
  | 0 => cs
  | fuel + 1 =>
    match lineBreak? (skipComment cs) with
    | some rest => skipLines fuel rest
    | none => skipComment cs

/-! ## Strings -/

/-- Reads an escape after its backslash. -/
def readEscape : List Char → Option (Char × List Char)
  | 'u' :: a :: b :: c :: d :: rest => do
    return (← Text.charOfCode? (← Text.hexNumber? 0 [a, b, c, d]), rest)
  | 'U' :: a :: b :: c :: d :: e :: f :: g :: h :: rest => do
    return (← Text.charOfCode? (← Text.hexNumber? 0 [a, b, c, d, e, f, g, h]), rest)
  | 'b' :: rest => some ('\x08', rest)
  | 't' :: rest => some ('\t', rest)
  | 'n' :: rest => some ('\n', rest)
  | 'f' :: rest => some ('\x0c', rest)
  | 'r' :: rest => some ('\r', rest)
  | '"' :: rest => some ('"', rest)
  | '\\' :: rest => some ('\\', rest)
  | _ => none

/-- Reads a string with escapes after its opening quote. -/
def readBasic (fuel : Nat) (cs : List Char) : Option (List Char × List Char) :=
  match fuel, cs with
  | 0, _ => none
  | _ + 1, '"' :: rest => some ([], rest)
  | fuel + 1, '\\' :: rest => do
    let (c, rest) ← readEscape rest
    let (s, rest) ← readBasic fuel rest
    return (c :: s, rest)
  | fuel + 1, c :: rest =>
    if isPlain c then do
      let (s, rest) ← readBasic fuel rest
      return (c :: s, rest)
    else none
  | _ + 1, [] => none

/-- Reads a string without escapes after its opening quote. -/
def readLiteral (cs : List Char) : Option (List Char × List Char) :=
  let isContent (c : Char) : Bool := isPlain c && c ≠ '\''
  match cs.dropWhile isContent with
  | '\'' :: rest => some (cs.takeWhile isContent, rest)
  | _ => none

/-- The end of a string of several lines: three quotes, before which one or two more are content. -/
def closing? (quote : Char) (cs : List Char) : Option (List Char × List Char) :=
  let quotes := (cs.takeWhile (· = quote)).length
  if quotes < 3 then none
  else
    let kept := min (quotes - 3) 2
    some (List.replicate kept quote, cs.drop (kept + 3))

/-- The text after blanks and line breaks. -/
def skipBreaks : List Char → List Char
  | '\r' :: '\n' :: rest => skipBreaks rest
  | c :: rest => if c = ' ' ∨ c = '\t' ∨ c = '\n' then skipBreaks rest else c :: rest
  | [] => []

/-- The text after a backslash at the end of a line: all blanks and line breaks are passed over. -/
def continuation? (cs : List Char) : Option (List Char) :=
  (lineBreak? (skipSpace cs)).map skipBreaks

/-- Reads a string of several lines after its opening quotes. -/
def readLines (escapes : Bool) (quote : Char) (fuel : Nat) (cs : List Char) :
    Option (List Char × List Char) :=
  match fuel with
  | 0 => none
  | fuel + 1 =>
    match closing? quote cs with
    | some found => some found
    | none =>
      match lineBreak? cs with
      | some rest => do
        let (s, rest) ← readLines escapes quote fuel rest
        return ('\n' :: s, rest)
      | none =>
        match cs with
        | [] => none
        | c :: rest =>
          if escapes && c = '\\' then
            match continuation? rest with
            | some rest => readLines escapes quote fuel rest
            | none => do
              let (c, rest) ← readEscape rest
              let (s, rest) ← readLines escapes quote fuel rest
              return (c :: s, rest)
          else if isPlain c then do
            let (s, rest) ← readLines escapes quote fuel rest
            return (c :: s, rest)
          else none

/-- The text after a line break that follows the opening quotes of a string of several lines. -/
def afterOpening (cs : List Char) : List Char := (lineBreak? cs).getD cs

/-- Reads a string of one line or several, if there is one. -/
def readString? : List Char → Option (Option (List Char × List Char))
  | '"' :: '"' :: '"' :: rest => some (readLines true '"' (rest.length + 1) (afterOpening rest))
  | '\'' :: '\'' :: '\'' :: rest =>
    some (readLines false '\'' (rest.length + 1) (afterOpening rest))
  | '"' :: rest => some (readBasic (rest.length + 1) rest)
  | '\'' :: rest => some (readLiteral rest)
  | _ => none

/-! ## Keys -/

/-- Whether the character may stand in a key without quotes. -/
def isBare (c : Char) : Bool := (c.toNat < 0x80 && c.isAlphanum) || c = '_' || c = '-'

/-- Reads one name of a key. -/
def readName : List Char → Option (String × List Char)
  | '"' :: rest => do
    let (s, rest) ← readBasic (rest.length + 1) rest
    return (.ofList s, rest)
  | '\'' :: rest => do
    let (s, rest) ← readLiteral rest
    return (.ofList s, rest)
  | cs =>
    let name := cs.takeWhile isBare
    if name.isEmpty then none else some (.ofList name, cs.dropWhile isBare)

/-- Keys have fewer names than this, and arrays and tables in one line stand in fewer of their
kind. -/
def nestingLimit : Nat := 80

/-- Reads at most `count` names with points between them. -/
def readNames (count : Nat) (cs : List Char) : Option (List String × List Char) :=
  match count with
  | 0 => none
  | count + 1 => do
    let (name, rest) ← readName (skipSpace cs)
    match skipSpace rest with
    | '.' :: rest => do
      let (names, rest) ← readNames count rest
      return (name :: names, rest)
    | rest => return ([name], rest)

/-- Reads a key: names with points between them. -/
def readKey (cs : List Char) : Option (List String × List Char) := readNames (nestingLimit - 1) cs

/-! ## Scalars -/

/-- Digits in which single underscores stand between two digits, after a digit or not. -/
def digitsFrom? (isDigit : Char → Bool) (afterDigit : Bool) : List Char → Option (List Char)
  | [] => if afterDigit then some [] else none
  | '_' :: rest => if afterDigit then digitsFrom? isDigit false rest else none
  | c :: rest => if isDigit c then (digitsFrom? isDigit true rest).map (c :: ·) else none

/-- Digits in which single underscores stand between two digits; there is at least one. -/
def digits? (isDigit : Char → Bool) (cs : List Char) : Option (List Char) :=
  digitsFrom? isDigit false cs

/-- Decimal digits without a zero in front. -/
def whole? (cs : List Char) : Option (List Char) := do
  let digits ← digits? Char.isDigit cs
  if 1 < digits.length ∧ digits.head? = some '0' then none else return digits

/-- The value of digits to a base. -/
def baseValue (base : Nat) (digits : List Char) : Nat :=
  digits.foldl (fun n c => base * n + (Text.hexValue? c).getD 0) 0

/-- Reads digits to a base as an integer of 64 bits. -/
def basedInteger? (base : Nat) (cs : List Char) : Option Int := do
  let digits ← digits? (fun c => (Text.hexValue? c).any (· < base)) cs
  let n := baseValue base digits
  if n < 2 ^ 63 then return n else none

/-- Reads an integer of 64 bits. -/
def integer? : List Char → Option Int
  | '0' :: 'x' :: rest => basedInteger? 16 rest
  | '0' :: 'o' :: rest => basedInteger? 8 rest
  | '0' :: 'b' :: rest => basedInteger? 2 rest
  | '-' :: rest => do (Number.signed 63 ('-' :: (← whole? rest))).toOption
  | '+' :: rest => do (Number.signed 63 (← whole? rest)).toOption
  | cs => do (Number.signed 63 (← whole? cs)).toOption

/-- The text after an optional sign. -/
def afterSign : List Char → List Char
  | '-' :: rest | '+' :: rest => rest
  | rest => rest

/-- Whether a number with a fraction or an exponent exceeds all doubles. -/
def isTooGreat (cs : List Char) : Bool :=
  cs.head? ≠ some '-' &&
    (Binary.ofChars? (cs.filter (· ≠ '_')) : Option Binary64).any Binary.isInfinite

/-- Whether the text is a number with a fraction or an exponent, or a word for one. -/
def isFloat (text : List Char) : Bool :=
  let cs := afterSign text
  let isMark (c : Char) : Bool := c = 'e' || c = 'E'
  let base := cs.takeWhile (!isMark ·)
  let whole := base.takeWhile (· ≠ '.')
  let hasFraction := base.contains '.'
  let fractionFits := !hasFraction || (digits? Char.isDigit (base.drop (whole.length + 1))).isSome
  let exponentFits :=
    match cs.dropWhile (!isMark ·) with
    | [] => hasFraction
    | _ :: exponent => (digits? Char.isDigit (afterSign exponent)).isSome
  cs = ['i', 'n', 'f'] || cs = ['n', 'a', 'n'] ||
    ((whole? whole).isSome && fractionFits && exponentFits && !isTooGreat text)

/-- The number that two digits spell. -/
def twoDigits? : List Char → Option Nat
  | [a, b] => if a.isDigit ∧ b.isDigit then some (baseValue 10 [a, b]) else none
  | _ => none

/-- Whether the text is a date. -/
def isDate (cs : List Char) : Bool :=
  match cs with
  | [a, b, c, d, '-', m, n, '-', x, y] =>
    [a, b, c, d].all Char.isDigit &&
      (match twoDigits? [m, n], twoDigits? [x, y] with
      | some month, some day => (Date.ofYMD? (baseValue 10 [a, b, c, d]) month day).isSome
      | _, _ => false)
  | _ => false

/-- Whether the text is a time of day. -/
def isTime (cs : List Char) : Bool :=
  match cs with
  | h :: i :: ':' :: m :: n :: ':' :: s :: t :: rest =>
    (twoDigits? [h, i]).any (· < 24) && (twoDigits? [m, n]).any (· < 60) &&
      (twoDigits? [s, t]).any (· ≤ 60) &&
      (match rest with
      | [] => true
      | '.' :: fraction => !fraction.isEmpty && fraction.all Char.isDigit
      | _ => false)
  | _ => false

/-- Whether the text is an offset from universal time. -/
def isOffset (cs : List Char) : Bool :=
  match cs with
  | ['Z'] | ['z'] => true
  | [s, h, i, ':', m, n] =>
    (s = '+' || s = '-') && (twoDigits? [h, i]).any (· < 24) && (twoDigits? [m, n]).any (· < 60)
  | _ => false

/-- Whether the text is a date, a time of day or both. -/
def isDateTime (cs : List Char) : Bool :=
  let time := cs.drop 11
  let isTimePart (c : Char) : Bool := c.isDigit || c = ':' || c = '.'
  isDate cs || isTime cs ||
    (isDate (cs.take 10) && (cs[10]?).any (fun c => c = 'T' || c = 't' || c = ' ') &&
      isTime (time.takeWhile isTimePart) &&
      (time.all isTimePart || isOffset (time.dropWhile isTimePart)))

/-- The value of a scalar that is no string. -/
def scalar? (cs : List Char) : Option Toml :=
  if cs = ['t', 'r', 'u', 'e'] ∨ cs = ['f', 'a', 'l', 's', 'e'] then some .scalar
  else
    match integer? cs with
    | some n => some (.integer n)
    | none => if isFloat cs || isDateTime cs then some .scalar else none

/-- Whether the character may stand in a scalar. -/
def isScalarPart (c : Char) : Bool := isBare c || c = '+' || c = '.' || c = ':'

/-- Reads a scalar that is no string. A blank may stand between a date and a time. -/
def readScalar (cs : List Char) : Option (Toml × List Char) := do
  let token := cs.takeWhile isScalarPart
  let rest := cs.dropWhile isScalarPart
  match rest with
  | ' ' :: c :: more =>
    if isDate token ∧ c.isDigit then
      let time := (c :: more).takeWhile isScalarPart
      return (← scalar? (token ++ ' ' :: time), (c :: more).dropWhile isScalarPart)
    else return (← scalar? token, rest)
  | _ => return (← scalar? token, rest)

/-! ## Values -/

mutual

/-- Reads a value, which may hold arrays and tables `depth` deep. Every step of the recursion is at
least one character further on, so that the length of a text is enough `fuel` for it. -/
def readValue (fuel depth : Nat) (cs : List Char) : Option (Toml × List Char) :=
  match fuel with
  | 0 => none
  | fuel + 1 =>
    match readString? cs with
    | some read => read.map fun (s, rest) => (.string (.ofList s), rest)
    | none =>
      match cs, depth with
      | '[' :: _, 0 | '\x7b' :: _, 0 => none
      | '[' :: rest, depth + 1 => do
        let (elements, rest) ← readElements fuel depth (skipLines fuel rest)
        return (.array elements, rest)
      | '\x7b' :: rest, depth + 1 =>
        match skipSpace rest with
        | '\x7d' :: rest => some (.table .inline [], rest)
        | rest => do
          let (members, rest) ← readMembers fuel depth [] rest
          return (.table .inline members, rest)
      | _, _ => readScalar cs

/-- Reads the elements of an array up to its end. -/
def readElements (fuel depth : Nat) (cs : List Char) : Option (List Toml × List Char) :=
  match fuel, cs with
  | 0, _ => none
  | _ + 1, ']' :: rest => some ([], rest)
  | fuel + 1, cs => do
    let (element, rest) ← readValue fuel depth cs
    match skipLines fuel rest with
    | ',' :: rest => do
      let (elements, rest) ← readElements fuel depth (skipLines fuel rest)
      return (element :: elements, rest)
    | ']' :: rest => return ([element], rest)
    | _ => none

/-- Reads the members of a table in one line up to its end; there is at least one. -/
def readMembers (fuel depth : Nat) (members : Members) (cs : List Char) :
    Option (Members × List Char) :=
  match fuel with
  | 0 => none
  | fuel + 1 => do
    let (key, rest) ← readKey cs
    match rest with
    | '=' :: rest => do
      let (value, rest) ← readValue fuel depth (skipSpace rest)
      let members ← addValue key value members
      match skipSpace rest with
      | ',' :: rest => readMembers fuel depth members rest
      | '\x7d' :: rest => return (members, rest)
      | _ => none
    | _ => none

end

/-! ## Documents -/

/-- Reads the lines of a document, where `heading` is the path of the current table. -/
def readDocument (fuel : Nat) (heading : List String) (members : Members) (cs : List Char) :
    Option Members :=
  match fuel with
  | 0 => none
  | fuel + 1 =>
    match skipSpace cs with
    | [] => some members
    | '[' :: '[' :: rest => do
      let (key, rest) ← readKey rest
      match rest with
      | ']' :: ']' :: rest => readDocument fuel key (← openElement key members) (← lineEnd? rest)
      | _ => none
    | '[' :: rest => do
      let (key, rest) ← readKey rest
      match rest with
      | ']' :: rest => readDocument fuel key (← openTable key members) (← lineEnd? rest)
      | _ => none
    | c :: rest =>
      match lineEnd? (c :: rest) with
      | some rest => readDocument fuel heading members rest
      | none => do
        let (key, rest) ← readKey (c :: rest)
        match rest with
        | '=' :: rest => do
          let (value, rest) ← readValue fuel (nestingLimit - 1) (skipSpace rest)
          let members ← changeAt false (fun _ => addValue key value) .heading heading members
          readDocument fuel heading members (← lineEnd? rest)
        | _ => none

/-- Reads a document, which may begin with a byte order mark. -/
def parseChars? (cs : List Char) : Option Members :=
  match cs with
  | '\ufeff' :: rest => readDocument (rest.length + 2) [] [] rest
  | cs => readDocument (cs.length + 2) [] [] cs

/-- Reads a document. -/
def parse? (s : String) : Option Members := parseChars? s.toList

end QueryRegression.Toml
