import TransactSql.Client.Error
import TransactSql.NameTable
import TransactSql.Pattern.Parser
import TransactSql.Relation.Basic
import TransactSql.Sql.NativeType
import TransactSql.Worker.Reply

/-!
# The catalogue of the database

Tables as the database describes them: the columns in the order of their positions, with logical
types, and names sorted and selected by a pattern.
-/

namespace TransactSql

namespace ColumnInfo

/-- A number of eight bits; any other one counts as absent. -/
def eightBits? (n : Option Int32) : Option UInt8 :=
  n.bind fun n =>
    if 0 ≤ n.toInt && n.toInt ≤ 255 then some (UInt8.ofNat n.toInt.toNat) else none

/-- The logical type of a column. -/
def logicalType? (c : ColumnInfo) : Option LogicalType :=
  LogicalType.ofCatalog? c.dataType (eightBits? c.precision) (eightBits? c.scale)

/-- A column with its logical type. -/
def typed (c : ColumnInfo) : Except ClientError (String × LogicalType) :=
  match c.logicalType? with
  | some type => .ok (c.name, type)
  | none => .error (.unmappedType c.name c.dataType)

/-- Columns by ascending position; those at one position stay as they are. -/
def inOrder (columns : List ColumnInfo) : List ColumnInfo :=
  columns.mergeSort fun a b => decide (a.position.toInt ≤ b.position.toInt)

end ColumnInfo

/-- The table of a name whose columns the database describes. -/
def Table.ofColumns (name : TableName) (columns : List ColumnInfo) : Except ClientError Table :=
  ((ColumnInfo.inOrder columns).mapM ColumnInfo.typed).map fun columns => ⟨name, columns⟩

/-- The names by ascending code points, each once. -/
def sortedNames (names : List String) : List String :=
  (NameTable.ofList (names.map fun name => (name, ()))).names

/-- The names in which a pattern occurs, or all of them, sorted and each once. -/
def selectNames (names : List String) (like : Option String) : Except ClientError (List String) :=
  match like with
  | none => .ok (sortedNames names)
  | some text =>
    match Pattern.parse? text with
    | some pattern => .ok (sortedNames (names.filter pattern.occursIn))
    | none => .error .invalidPattern

end TransactSql
