import QueryRegression.Error
import QueryRegression.Value.Text

/-!
# Comparable forms

Expected results keep large objects and bytes as text. An actual value of such a type is turned
into text before it is compared, and the expected value facing it is then taken as text, too.
-/

namespace QueryRegression.Value

/-- The value as a text value, unless it is one or null. -/
def asText : Value → Value
  | .text s => .text s
  | .null => .null
  | v => .text v.toText

/-- The content of a large object as text: characters as they are, bytes in Base64. -/
def readLargeObject (kind : LargeObjectKind) (o : LargeObject) : Except LargeObjectFault String :=
  match kind with
  | .blob => (o.readBytes.map Text.Base64.encode).mapError (.unreadable kind)
  | _ => o.readText.mapError (.unreadable kind)

/-- The text that stands for an actual value, if it is compared as text. -/
def textForm? : Value → Except LargeObjectFault (Option String)
  | .largeObject kind o => (readLargeObject kind o).map some
  | .bytes b => .ok (some (Text.Base64.encode b))
  | .boxedBytes b => .ok (some (Text.Base64.encode (unboxBytes b)))
  | _ => .ok none

/-- An actual and an expected value in the forms in which they are compared. -/
def normalize (actual expected : Value) : Except LargeObjectFault (Value × Value) := do
  match ← textForm? actual with
  | some s => return (.text s, expected.asText)
  | none => return (actual, expected)

end QueryRegression.Value
