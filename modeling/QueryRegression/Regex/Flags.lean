import QueryRegression.Regex
import QueryRegression.Regex.Fold
import QueryRegression.Text.Blank

/-!
# Flags of patterns

How the parts of a pattern are read under its flags: which characters a letter, a point or a class
stands for, what the anchors assert, and which blanks are passed over. Without the Unicode flag a
part must not stand for a piece of a character beyond ASCII.
-/

namespace QueryRegression.Regex

open Text

/-- Why a text is no pattern. -/
inductive Fault where
  | unclosedGroup
  | unopenedGroup
  | unclosedClass
  | invalidClassItem
  | invalidRange
  | nothingToRepeat
  | invalidRepetition
  | invalidEscape
  | backReference
  | lookAround
  | unknownProperty
  | invalidFlag
  | invalidName
  | unicodeNotAllowed
  /-- A part stands for bytes that are no text. -/
  | notText
  | tooDeep
  | tooLarge
deriving DecidableEq

/-- The wording of a fault. -/
def Fault.message : Fault → String
  | .unclosedGroup => "unclosed group"
  | .unopenedGroup => "unopened group"
  | .unclosedClass => "unclosed character class"
  | .invalidClassItem => "invalid item in a character class"
  | .invalidRange => "invalid range in a character class"
  | .nothingToRepeat => "repetition of nothing"
  | .invalidRepetition => "invalid count of repetitions"
  | .invalidEscape => "invalid escape sequence"
  | .backReference => "back-references are not supported"
  | .lookAround => "look-around is not supported"
  | .unknownProperty => "unknown property"
  | .invalidFlag => "invalid flag"
  | .invalidName => "invalid name of a group"
  | .unicodeNotAllowed => "character beyond ASCII without the Unicode flag"
  | .notText => "pattern can match bytes that are no text"
  | .tooDeep => "pattern is nested too deeply"
  | .tooLarge => "pattern is too large"

/-- The flags under which a part of a pattern is read. -/
structure Flags where
  /-- Letters stand for both cases. -/
  caseless : Bool
  /-- Anchors hold at lines. -/
  multiLine : Bool
  /-- A point stands for line ends, too. -/
  dotAll : Bool
  /-- A carriage return ends a line, too. -/
  returns : Bool
  unicode : Bool
  /-- Blanks and comments in the pattern are passed over. -/
  extended : Bool
deriving DecidableEq

namespace Flags

/-- The text after blanks and comments; `inComment` holds inside a comment. -/
def skip (inComment : Bool) : List Char → List Char
  | [] => []
  | c :: rest =>
    if inComment then skip (c ≠ '\n') rest
    else if isBlank c then skip false rest
    else if c = '#' then skip true rest
    else c :: rest

/-- The text from its next significant character on. -/
def next (flags : Flags) (cs : List Char) : List Char :=
  if flags.extended then skip false cs else cs

/-- The set outside `s`, among characters or, without the Unicode flag, among bytes. -/
def complement (flags : Flags) (s : CharSet) : CharSet :=
  if flags.unicode then s.complement else s.complement.inter (.range 0 0xFF)

/-- The set without regard to case, if the flags say so. -/
def fold (flags : Flags) (s : CharSet) : CharSet :=
  if !flags.caseless then s else if flags.unicode then foldCase s else foldAsciiCase s

/-- The set, if it stands for whole characters. -/
def checked (flags : Flags) (s : CharSet) : Except Fault CharSet :=
  if flags.unicode || s.isAscii then .ok s else .error .notText

/-- A class: folded, then negated. -/
def closeClass (flags : Flags) (negated : Bool) (s : CharSet) : Except Fault CharSet :=
  let folded := flags.fold s
  flags.checked (if negated then flags.complement folded else folded)

/-- What a point stands for. -/
def point (flags : Flags) : Except Fault CharSet :=
  if !flags.unicode then .error .notText
  else if flags.dotAll then .ok .full
  else if flags.returns then .ok (CharSet.complement ⟨[(0xA, 0xA), (0xD, 0xD)]⟩)
  else .ok (CharSet.single 0xA).complement

/-- What `^` asserts. -/
def startAnchor (flags : Flags) : Assertion :=
  if !flags.multiLine then .textStart else if flags.returns then .returnLineStart else .lineStart

/-- What `$` asserts. -/
def endAnchor (flags : Flags) : Assertion :=
  if !flags.multiLine then .textEnd else if flags.returns then .returnLineEnd else .lineEnd

/-- What a character that stands for itself matches. `byte` holds if it was named by two
hexadecimal digits. -/
def literal (flags : Flags) (c : Char) (byte : Bool) : Except Fault Regex :=
  if !flags.unicode && byte && 0x7F < c.toNat then .error .notText
  else if flags.caseless && (flags.unicode || c.toNat < 0x80) then
    .ok (.set (flags.fold (.single c.toNat)))
  else .ok (.set (.single c.toNat))

/-- The value of a flag after `?`, with its sign, in the given order. -/
def apply (flags : Flags) (negative : Bool) : Char → Flags
  | 'i' => { flags with caseless := !negative }
  | 'm' => { flags with multiLine := !negative }
  | 's' => { flags with dotAll := !negative }
  | 'R' => { flags with returns := !negative }
  | 'u' => { flags with unicode := !negative }
  | 'x' => { flags with extended := !negative }
  | _ => flags

/-- Whether the character is a flag. -/
def isFlag (c : Char) : Bool := ['i', 'm', 's', 'R', 'U', 'u', 'x'].contains c

end Flags
end QueryRegression.Regex
