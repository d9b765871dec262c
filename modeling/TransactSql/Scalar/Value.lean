import TransactSql.Calendar
import TransactSql.Json.Printer
import TransactSql.Scalar.LogicalType
import TransactSql.Text.Escaped

/-!
# Literal values

The values that a query can hold as literals or take as parameters.
-/

namespace TransactSql

/-- A literal or the value of a parameter. -/
inductive Value where
  | null
  | bool (b : Bool)
  | int (n : Int64)
  | float (x : Binary64)
  | string (s : String)
  | date (d : Date)
  | timestamp (t : Timestamp)
deriving DecidableEq, Repr, Inhabited

namespace Value

/-- The type that a value has of itself; null has none. -/
def naturalType : Value → Option LogicalType
  | null => none
  | bool _ => some .boolean
  | int _ => some .int64
  | float _ => some .float64
  | string _ => some .string
  | date _ => some .date
  | timestamp _ => some .timestamp

/-- Whether the value is null. -/
def isNull : Value → Bool
  | null => true
  | _ => false

/-- Equality of values, where numbers with a fraction are compared as numbers: a NaN differs
from itself, and the two zeros are equal. -/
def same : Value → Value → Bool
  | float x, float y => x.numEq y
  | v, w => v == w

/-- A value in messages. -/
def shown : Value → String
  | null => "null"
  | bool b => if b then "true" else "false"
  | int n => toString n.toInt
  | float x => Decimal.shown x
  | string s => Text.shown s
  | date d => d.text
  | timestamp t => t.shown

/-- A value as it is sent: dates and timestamps as text, and null for a number that is not
finite. -/
def toJson : Value → Json
  | null => .null
  | bool b => .bool b
  | int n => .ofInt n.toInt
  | float x => if x.isFinite then .number (.float x) else .null
  | string s => .string s
  | date d => .string d.text
  | timestamp t => .string t.text

end Value

end TransactSql
