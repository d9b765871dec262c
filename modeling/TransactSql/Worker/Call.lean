import TransactSql.Json.Printer
import TransactSql.Scalar.Value

/-!
# Calls of the worker

What the worker can be asked for. Every call names the driver and the connection before its own
parameters; parameters that say nothing are left out.
-/

namespace TransactSql

/-- The server that a call is for. -/
structure Server where
  driver : String
  connectionString : String
deriving DecidableEq, Repr, Inhabited

/-- The parameters by which a call names the server. -/
def Server.members (s : Server) : List (String × Json) :=
  [("driver", .string s.driver), ("connection_string", .string s.connectionString)]

/-- A method of the worker and its parameters. -/
structure Call where
  method : String
  params : Json
deriving Inhabited

namespace Call

/-- Asks for the tables of a schema, or of all. -/
def listTables (server : Server) (schema : Option String) : Call :=
  ⟨"metadata.list_tables", .object (server.members ++
    (match schema with
    | some schema => [("schema", .string schema)]
    | none => []))⟩

/-- Asks for the columns of a table. -/
def getColumns (server : Server) (schema table : String) : Call :=
  ⟨"metadata.get_columns", .object (server.members ++
    [("schema", .string schema), ("table", .string table)])⟩

/-- An argument of a statement. -/
def argument (arg : String × Value) : Json :=
  .object [("name", .string arg.1), ("value", arg.2.toJson)]

/-- Runs a statement with its arguments. -/
def execute (server : Server) (sql : String) (args : List (String × Value)) : Call :=
  ⟨"query.execute", .object (server.members ++ [("sql", .string sql)] ++
    (if args.isEmpty then [] else [("args", .array (args.map argument))]))⟩

/-- The call with the members of its parameters by ascending name. -/
def settled (call : Call) : Call :=
  { call with params := call.params.settled.getD .null }

/-- A call as it is sent, with the number by which its reply is known. -/
def request (call : Call) (id : String) : String :=
  (Json.object [("id", .string id), ("method", .string call.method),
    ("params", call.settled.params)]).text

end Call

end TransactSql
