import QueryRegression.Text.Hex

/-!
# Writing TOML

How a string is written as a value. There are four forms: with escapes between quotes or without
them between apostrophes, in one line or on several. The first form of `forms` is taken that needs
no escape; where each would need one, the string is written with escapes.
-/

namespace QueryRegression.Toml

/-- Whether the character can only be written as an escape. -/
def needsEscape (c : Char) : Bool :=
  (c.toNat < 0x20 && c ≠ '\t' && c ≠ '\n') || c = '\x7f'

/-- The length of the longest row of a character, `run` of which were just seen. -/
def longestRun (c : Char) (run : Nat) : List Char → Nat
  | [] => run
  | d :: rest => if d = c then longestRun c (run + 1) rest else max run (longestRun c 0 rest)

/-- A form of strings. -/
structure StringForm where
  /-- Whether there are escapes. -/
  escapes : Bool
  /-- Whether line breaks stand for themselves. -/
  onLines : Bool

namespace StringForm

/-- The mark around a string. -/
def quote (f : StringForm) : Char := if f.escapes then '"' else '\''

/-- The number of marks at either end. -/
def width (f : StringForm) : Nat := if f.onLines then 3 else 1

/-- Whether the string can be written in the form without any escape. -/
def fits (f : StringForm) (cs : List Char) : Bool :=
  !cs.any needsEscape && !(f.escapes && cs.contains '\\') && (f.onLines || !cs.contains '\n') &&
    longestRun f.quote 0 cs < f.width

end StringForm

/-- The forms without an escape, the best of them first. -/
def forms : List StringForm := [⟨true, false⟩, ⟨false, false⟩, ⟨true, true⟩, ⟨false, true⟩]

/-- The form in which a string is written. -/
def formOf (cs : List Char) : StringForm :=
  (forms.find? (·.fits cs)).getD ⟨true, cs.contains '\n'⟩

/-- The characters that stand for `c`, which is no quote, in a string with escapes. -/
def escapeChar (onLines : Bool) (c : Char) : List Char :=
  if c = '\n' ∧ onLines then ['\n']
  else if c = '\x08' then ['\\', 'b']
  else if c = '\t' then ['\\', 't']
  else if c = '\n' then ['\\', 'n']
  else if c = '\x0c' then ['\\', 'f']
  else if c = '\r' then ['\\', 'r']
  else if c = '\\' then ['\\', '\\']
  else if needsEscape c then '\\' :: 'u' :: (Text.hexDigits 4 c.toNat).map Char.toUpper
  else [c]

/-- The text of a string with escapes, where `run` quotes were just written. A quote is escaped if
it would make the mark of the end. -/
def escaped (f : StringForm) (run : Nat) : List Char → List Char
  | [] => []
  | '"' :: rest =>
    if run + 1 < f.width then '"' :: escaped f (run + 1) rest else '\\' :: '"' :: escaped f 0 rest
  | c :: rest => escapeChar f.onLines c ++ escaped f 0 rest

/-- A string as a value. Where it is written on several lines, it begins on the second. -/
def quoted (s : String) : String :=
  let cs := s.toList
  let form := formOf cs
  let mark := List.replicate form.width form.quote
  let opening := if form.onLines && cs.contains '\n' then ['\n'] else []
  .ofList (mark ++ opening ++ (if form.escapes then escaped form 0 cs else cs) ++ mark)

end QueryRegression.Toml
