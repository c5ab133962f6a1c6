import QueryRegression.Number.Binary.Text
import QueryRegression.Number.Decimal.Text
import QueryRegression.Text.Base64
import QueryRegression.Value

/-!
# Values as text

The text of a value is what reports show, and what an expected text is compared with. Bytes are
shown in Base64; a large object shows its kind only, because it is not read for that.
-/

namespace QueryRegression.Value

/-- The text of a value. -/
def toText : Value → String
  | .null => "null"
  | .boolean v => if v then "true" else "false"
  | .tinyInt v => toString v.toInt
  | .smallInt v => toString v.toInt
  | .integer v => toString v.toInt
  | .bigInt v => toString v.toInt
  | .float v => v.render .value
  | .double v => v.render .value
  | .decimal v => v.toText
  | .text v => v
  | .date v => v.toText
  | .time v => v.toText
  | .timestamp v => v.toText
  | .bytes v => Text.Base64.encode v
  | .boxedBytes v => Text.Base64.encode (unboxBytes v)
  | .largeObject kind _ => "[" ++ kind.name ++ "]"

end QueryRegression.Value
