/-!
# JSON values

The data of a JSON text. Integers are kept exactly; of other numbers only the text is kept. An
object keeps its members in order, also those of one name. A string may name, by escapes, half of
a surrogate pair; it is well-formed JSON, but stands for no text.
-/

namespace QueryRegression

/-- A JSON value. -/
inductive Json where
  | null
  | bool (b : Bool)
  | integer (n : Int)
  /-- A number with a fraction or an exponent, as it is written. -/
  | decimal (text : String)
  | string (s : String)
  /-- A string that stands for no text. -/
  | brokenString
  | array (elements : List Json)
  /-- Members with their names; `none` is a name that stands for no text. -/
  | object (members : List (Option String × Json))

namespace Json

/-- The object with the given members. -/
def record (members : List (String × Json)) : Json :=
  .object (members.map fun (name, value) => (some name, value))

/-- A natural number. -/
def nat (n : Nat) : Json := .integer n

/-- The value of optional data; null, if there is none. -/
def ofOption {α : Type} (toJson : α → Json) : Option α → Json
  | none => .null
  | some a => toJson a

/-- The values of the elements of a list. -/
def ofList {α : Type} (toJson : α → Json) (as : List α) : Json := .array (as.map toJson)

end Json
end QueryRegression
