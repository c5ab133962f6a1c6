import QueryRegression.Json
import QueryRegression.Number.Power

/-!
# Records in JSON

How structured data is read from JSON values. A record is an object, in which members of unknown
names are passed over and a known name occurs at most once, or an array of the fields in order. A
choice without data is its name or an object with that name and null; a choice with data is an
object with its name and the data.
-/

namespace QueryRegression.Json

/-- Where a field of a record was found. -/
inductive Slot where
  | present (value : Json)
  /-- The object has no such member. -/
  | absent
  /-- The array ends before the field. -/
  | beyond

namespace Slot

/-- A field that must be there. -/
def required {α : Type} (read : Json → Option α) : Slot → Option α
  | .present v => read v
  | _ => none

/-- A field that must be there or have the given default. -/
def withDefault {α : Type} (default : α) (read : Json → Option α) : Slot → Option α
  | .present v => read v
  | _ => some default

end Slot

/-- Optional data; null, if there is none. -/
def optional? {α : Type} (read : Json → Option α) : Json → Option (Option α)
  | .null => some none
  | v => (read v).map some

/-- An optional field, which an object may leave out and an array may not. -/
def Slot.optional {α : Type} (read : Json → Option α) : Slot → Option (Option α)
  | .present v => optional? read v
  | .absent => some none
  | .beyond => none

/-- The only member of the given name, if there is at most one. -/
def member? (name : String) (members : List (Option String × Json)) : Option Slot :=
  match members.filter (·.1 == some name) with
  | [] => some .absent
  | [(_, value)] => some (.present value)
  | _ => none

/-- The elements of an array as the first of so many fields. -/
def slots (count : Nat) (elements : List Json) : List Slot :=
  elements.map .present ++ List.replicate (count - elements.length) .beyond

/-- The fields of a record, in the order of their names. -/
def fields? (names : List String) : Json → Option (List Slot)
  | .object members =>
    if members.all (·.1.isSome) then names.mapM (member? · members) else none
  | .array elements =>
    if elements.length ≤ names.length then some (slots names.length elements) else none
  | _ => none

/-- A text. -/
def string? : Json → Option String
  | .string s => some s
  | _ => none

/-- A natural number below `2 ^ bits`. -/
def natBelow? (bits : Nat) : Json → Option Nat
  | .integer n => if 0 ≤ n ∧ n < 2 ^ bits then some n.toNat else none
  | _ => none

/-- A list. -/
def list? {α : Type} (read : Json → Option α) : Json → Option (List α)
  | .array elements => elements.mapM read
  | _ => none

/-- The name of a choice and its data; a bare name has the data null. -/
def choice? : Json → Option (String × Option Json)
  | .string name => some (name, none)
  | .object [(some name, value)] => some (name, some value)
  | _ => none

/-- A choice without data, one of those named. -/
def plainChoice? {α : Type} (choices : List (String × α)) (v : Json) : Option α := do
  match ← choice? v with
  | (name, none) | (name, some .null) => choices.lookup name
  | _ => none

end QueryRegression.Json
