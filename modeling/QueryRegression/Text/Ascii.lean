/-!
# Case of ASCII letters

Keywords, column names and column types are told apart without regard to the case of ASCII
letters; every other character stands for itself.
-/

namespace QueryRegression.Text

/-- The text with its ASCII capital letters made small. -/
def asciiLower (s : String) : String := .ofList (s.toList.map Char.toLower)

/-- Equality up to the case of ASCII letters. -/
def eqAsciiCase (a b : String) : Bool := a.toList.map Char.toLower == b.toList.map Char.toLower

theorem eqAsciiCase_refl (a : String) : eqAsciiCase a a = true := by simp [eqAsciiCase]

end QueryRegression.Text
