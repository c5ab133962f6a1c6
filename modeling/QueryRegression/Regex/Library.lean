import QueryRegression.Regex.Parser

/-!
# Libraries of regular expressions

What a comparison asks of regular expressions: whether a text is a pattern, and whether a pattern
occurs in a text. A point in a pattern stands for line ends, too.
-/

namespace QueryRegression

/-- A library of regular expressions. -/
structure PatternLibrary where
  /-- The test whether a pattern occurs in a text, or what is wrong with the pattern. -/
  compile : String → Except String (String → Bool)

/-- The library that reads patterns within the given limits. -/
def Regex.library (limits : Limits) : PatternLibrary where
  compile pattern :=
    match ofChars limits true pattern.toList with
    | .error fault => .error fault.message
    | .ok r => .ok fun text => r.search text.toList

/-- The library with the standard limits. -/
def PatternLibrary.standard : PatternLibrary := Regex.library .standard

end QueryRegression
