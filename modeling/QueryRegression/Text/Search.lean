/-!
# Occurrences of a text in another

`firstIndex?` counts the characters before the first occurrence.
-/

namespace QueryRegression.Text

/-- The number of characters before the first occurrence of `pattern` in a text. -/
def firstIndex? (pattern : List Char) : List Char → Option Nat
  | [] => if pattern.isEmpty then some 0 else none
  | c :: rest =>
    if pattern.isPrefixOf (c :: rest) then some 0 else (firstIndex? pattern rest).map (· + 1)

/-- Whether `pattern` occurs in the text. -/
def occursIn (pattern text : String) : Bool := (firstIndex? pattern.toList text.toList).isSome

/-- Whether the text begins with `start`. -/
def beginsWith (start text : String) : Bool := start.toList.isPrefixOf text.toList

end QueryRegression.Text
