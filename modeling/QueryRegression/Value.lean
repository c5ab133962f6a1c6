import QueryRegression.Calendar.TimeOfDay
import QueryRegression.LargeObject
import QueryRegression.Number.Binary
import QueryRegression.Number.Decimal

/-!
# Column values

The values that a query can return in one cell, with the type they were returned in.
-/

namespace QueryRegression

/-- A value in one cell of a result. -/
inductive Value where
  | null
  | boolean (v : Bool)
  | tinyInt (v : Int8)
  | smallInt (v : Int16)
  | integer (v : Int32)
  | bigInt (v : Int64)
  | float (v : Binary32)
  | double (v : Binary64)
  | decimal (v : Decimal)
  | text (v : String)
  | date (v : Date)
  | time (v : TimeOfDay)
  | timestamp (v : Timestamp)
  | bytes (v : List UInt8)
  /-- Bytes that were delivered one by one as signed numbers. -/
  | boxedBytes (v : List Int8)
  | largeObject (kind : LargeObjectKind) (v : LargeObject)

instance : Inhabited Value := ⟨.null⟩

/-- Signed numbers of eight bits as the bytes of the same bits. -/
def unboxBytes (bytes : List Int8) : List UInt8 := bytes.map Int8.toUInt8

namespace Value

/-- Whether the value is null. -/
def isNull : Value → Bool
  | .null => true
  | _ => false

/-- Whether the value is a date, a time of day or a timestamp. -/
def isDateTime : Value → Bool
  | .date _ | .time _ | .timestamp _ => true
  | _ => false

/-- Whether the value is a large object. -/
def isLargeObject : Value → Bool
  | .largeObject _ _ => true
  | _ => false

/-- The content of a text value. -/
def text? : Value → Option String
  | .text s => some s
  | _ => none

/-- The name of the type of a value. -/
def typeName : Value → String
  | .null => "null"
  | .boolean _ => "boolean"
  | .tinyInt _ => "tinyint"
  | .smallInt _ => "smallint"
  | .integer _ => "integer"
  | .bigInt _ => "bigint"
  | .float _ => "float"
  | .double _ => "double"
  | .decimal _ => "decimal"
  | .text _ => "string"
  | .date _ => "date"
  | .time _ => "time"
  | .timestamp _ => "timestamp"
  | .bytes _ => "byte[]"
  | .boxedBytes _ => "Byte[]"
  | .largeObject kind _ => kind.name

/-- Equality of values of one type: numbers by value, so that what is not a number equals nothing,
and large objects by identity. Values of different types are different. -/
def same : Value → Value → Bool
  | .null, .null => true
  | .boolean a, .boolean b => a == b
  | .tinyInt a, .tinyInt b => a == b
  | .smallInt a, .smallInt b => a == b
  | .integer a, .integer b => a == b
  | .bigInt a, .bigInt b => a == b
  | .float a, .float b => a.eq b
  | .double a, .double b => a.eq b
  | .decimal a, .decimal b => a.eq b
  | .text a, .text b => a == b
  | .date a, .date b => a == b
  | .time a, .time b => a == b
  | .timestamp a, .timestamp b => a == b
  | .bytes a, .bytes b => a == b
  | .boxedBytes a, .boxedBytes b => a == b
  | .largeObject k a, .largeObject l b => k == l && a.same b
  | _, _ => false

end Value

/-! ## Values of ordinary data -/

instance : Coe String Value := ⟨.text⟩
instance : Coe Int32 Value := ⟨.integer⟩
instance : Coe Int64 Value := ⟨.bigInt⟩
instance : Coe Binary64 Value := ⟨.double⟩
instance : Coe Decimal Value := ⟨.decimal⟩
instance : Coe Bool Value := ⟨.boolean⟩

/-- The value of optional data; null, if there is none. -/
def Value.ofOption {α : Type} (toValue : α → Value) : Option α → Value
  | none => .null
  | some a => toValue a

end QueryRegression
