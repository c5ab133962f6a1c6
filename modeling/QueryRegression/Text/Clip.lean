/-!
# Clipping

Long messages are cut for the log; the cut is marked by three points, which count towards the
length unless the length is too small to hold them.
-/

namespace QueryRegression.Text

/-- The text, cut to `limit` characters if it has more. -/
def clip (s : String) (limit : Nat) : String :=
  if s.length ≤ limit then s else .ofList (s.toList.take (limit - 3)) ++ "..."

end QueryRegression.Text
