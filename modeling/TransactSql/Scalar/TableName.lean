/-!
# Names of tables

A table has a name, and may be qualified by the schema of the database that it is in.
-/

namespace TransactSql

/-- The name of a table, with its schema where one is given. -/
structure TableName where
  schema : Option String
  name : String
deriving DecidableEq, Repr, Inhabited

namespace TableName

/-- Splits `schema.table` at the first dot; a text without a dot names a table alone. -/
def parse (qualified : String) : TableName :=
  let cs := qualified.toList
  match cs.dropWhile (· != '.') with
  | [] => ⟨none, qualified⟩
  | _ :: rest => ⟨some (String.ofList (cs.takeWhile (· != '.'))), String.ofList rest⟩

/-- A name as it is written: schema and table with a dot between them. -/
def shown (t : TableName) : String :=
  match t.schema with
  | some schema => schema ++ "." ++ t.name
  | none => t.name

end TableName

end TransactSql
