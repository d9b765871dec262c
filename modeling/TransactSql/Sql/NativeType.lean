import TransactSql.Scalar.LogicalType
import TransactSql.Text.WhiteSpace

/-!
# Column types of the server

The types that columns have in the database and that stand in a cast, the names under which the
catalogue reports them, and how they correspond to logical types.
-/

namespace TransactSql

/-- A column type of SQL Server. -/
inductive NativeType where
  | bit
  | tinyInt
  | smallInt
  | int
  | bigInt
  | real
  | float
  | decimal (precision scale : UInt8)
  | money
  | varChar
  | nVarChar
  | char
  | nChar
  | text
  | date
  | time
  | dateTime
  | dateTime2
  | smallDateTime
  | dateTimeOffset
  | varBinary
  | uniqueIdentifier
deriving DecidableEq, Repr, Inhabited

namespace NativeType

/-- A type as it is written in a cast. -/
def sql : NativeType → String
  | bit => "BIT"
  | tinyInt => "TINYINT"
  | smallInt => "SMALLINT"
  | int => "INT"
  | bigInt => "BIGINT"
  | real => "REAL"
  | float => "FLOAT"
  | decimal precision scale =>
    "DECIMAL(" ++ toString precision.toNat ++ ", " ++ toString scale.toNat ++ ")"
  | money => "MONEY"
  | varChar => "VARCHAR(MAX)"
  | nVarChar => "NVARCHAR(MAX)"
  | char => "CHAR"
  | nChar => "NCHAR"
  | text => "TEXT"
  | date => "DATE"
  | time => "TIME"
  | dateTime => "DATETIME"
  | dateTime2 => "DATETIME2"
  | smallDateTime => "SMALLDATETIME"
  | dateTimeOffset => "DATETIMEOFFSET"
  | varBinary => "VARBINARY(MAX)"
  | uniqueIdentifier => "UNIQUEIDENTIFIER"

/-- The type of a name in small letters. A decimal has precision 18 and scale 0 unless the
catalogue says otherwise. -/
def ofName? : String → Option NativeType
  | "bit" => some bit
  | "tinyint" => some tinyInt
  | "smallint" => some smallInt
  | "int" | "integer" => some int
  | "bigint" => some bigInt
  | "real" => some real
  | "float" | "double precision" => some float
  | "decimal" | "numeric" => some (decimal 18 0)
  | "money" | "smallmoney" => some money
  | "varchar" => some varChar
  | "nvarchar" => some nVarChar
  | "char" => some char
  | "nchar" => some nChar
  | "text" | "ntext" => some text
  | "date" => some date
  | "time" => some time
  | "datetime" => some dateTime
  | "datetime2" => some dateTime2
  | "smalldatetime" => some smallDateTime
  | "datetimeoffset" => some dateTimeOffset
  | "varbinary" | "binary" | "image" => some varBinary
  | "uniqueidentifier" => some uniqueIdentifier
  | _ => none

/-- The part of a reported name that names the type: in small letters, without white space
around it, and without a length in parentheses. Names of types consist of letters whose only
capitals are those of ASCII, so other letters can stay as they are. -/
def baseName (reported : List Char) : List Char :=
  Text.trimChars (((Text.trimChars reported).map Char.toLower).takeWhile (· != '('))

/-- The type that the catalogue reports by a name. -/
def parse? (reported : String) : Option NativeType :=
  ofName? (String.ofList (baseName reported.toList))

/-- A decimal with the precision and scale that the catalogue gives; other types stay. -/
def withPrecision (type : NativeType) (precision scale : Option UInt8) : NativeType :=
  match type with
  | decimal p s => decimal (precision.getD p) (scale.getD s)
  | other => other

/-- The logical type of a column. A `TINYINT` is unsigned, so only a wider type holds it. -/
def logical : NativeType → LogicalType
  | bit => .boolean
  | tinyInt | smallInt => .int16
  | int => .int32
  | bigInt => .int64
  | real => .float32
  | float => .float64
  | decimal precision scale => .decimal precision scale
  | money => .decimal 19 4
  | varChar | nVarChar | char | nChar | text => .string
  | date => .date
  | time => .time
  | dateTime | dateTime2 | smallDateTime | dateTimeOffset => .timestamp
  | varBinary => .binary
  | uniqueIdentifier => .uuid

end NativeType

namespace LogicalType

/-- The column type of a logical type; some have none. -/
def native? : LogicalType → Option NativeType
  | boolean => some .bit
  | int8 => some .tinyInt
  | int16 => some .smallInt
  | int32 => some .int
  | int64 => some .bigInt
  | float32 | float64 => some .real
  | decimal precision scale => some (.decimal precision scale)
  | string => some .varChar
  | date => some .date
  | time => some .time
  | timestamp => some .dateTime2
  | binary => some .varBinary
  | uuid => some .uniqueIdentifier
  | json | interval | array _ => none

/-- Whether the column type holds fewer digits than the logical type: `REAL` has single
precision. -/
def narrows : LogicalType → Bool
  | float64 => true
  | _ => false

/-- The logical type of a column that the catalogue describes. -/
def ofCatalog? (reported : String) (precision scale : Option UInt8) : Option LogicalType :=
  (NativeType.parse? reported).map fun type => (type.withPrecision precision scale).logical

end LogicalType

end TransactSql
