/-!
# Logical types

The types that values, columns and results have before a database is chosen.
-/

namespace TransactSql

/-- The type of a value, a column or a result. -/
inductive LogicalType where
  | boolean
  | int8
  | int16
  | int32
  | int64
  | float32
  | float64
  | decimal (precision scale : UInt8)
  | string
  | date
  | time
  | timestamp
  | binary
  | uuid
  | json
  | interval
  | array (element : LogicalType)
deriving DecidableEq, Repr, Inhabited

namespace LogicalType

/-- A type that holds whole numbers. -/
def isInteger : LogicalType → Bool
  | int8 | int16 | int32 | int64 => true
  | _ => false

/-- A type that holds numbers. -/
def isNumeric : LogicalType → Bool
  | float32 | float64 | decimal .. => true
  | ty => ty.isInteger

/-- A type that holds dates or times. -/
def isTemporal : LogicalType → Bool
  | date | time | timestamp => true
  | _ => false

/-- A type in messages. -/
def shown : LogicalType → String
  | boolean => "boolean"
  | int8 => "int8"
  | int16 => "int16"
  | int32 => "int32"
  | int64 => "int64"
  | float32 => "float32"
  | float64 => "float64"
  | decimal precision scale =>
    "decimal(" ++ toString precision.toNat ++ ", " ++ toString scale.toNat ++ ")"
  | string => "string"
  | date => "date"
  | time => "time"
  | timestamp => "timestamp"
  | binary => "binary"
  | uuid => "uuid"
  | json => "json"
  | interval => "interval"
  | array element => "array<" ++ element.shown ++ ">"

/-- The types without parameters, which their name alone gives. -/
def plain : List LogicalType :=
  [boolean, int8, int16, int32, int64, float32, float64, string, date, time, timestamp, binary,
    uuid, json, interval]

/-- The type without parameters of a name. -/
def ofName? (name : String) : Option LogicalType :=
  plain.find? (·.shown == name)

/-- A type as a term: the constructor with a capital, its parameters by name or in parentheses. -/
def term : LogicalType → String
  | boolean => "Boolean"
  | int8 => "Int8"
  | int16 => "Int16"
  | int32 => "Int32"
  | int64 => "Int64"
  | float32 => "Float32"
  | float64 => "Float64"
  | decimal precision scale =>
    "Decimal \x7b precision: " ++ toString precision.toNat ++ ", scale: "
      ++ toString scale.toNat ++ " \x7d"
  | string => "String"
  | date => "Date"
  | time => "Time"
  | timestamp => "Timestamp"
  | binary => "Binary"
  | uuid => "Uuid"
  | json => "Json"
  | interval => "Interval"
  | array element => "Array(" ++ element.term ++ ")"

end LogicalType

end TransactSql
