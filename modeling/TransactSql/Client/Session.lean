import TransactSql.Client.Action
import TransactSql.Client.Catalog
import TransactSql.Compile.Compiled
import TransactSql.Config.Location

/-!
# Clients

A client has a connection and settings, compiles queries, and lets the worker run them.
-/

namespace TransactSql

/-- How many rows a query may return. -/
inductive RowLimit where
  /-- As many as the settings say. -/
  | default
  | unlimited
  | rows (n : UInt64)
deriving DecidableEq, Repr, Inhabited

/-- The number of rows, if there is a limit. -/
def RowLimit.resolve (limit : RowLimit) (defaultLimit : UInt64) : Option UInt64 :=
  match limit with
  | default => some defaultLimit
  | unlimited => none
  | rows n => some n

/-- The rows of a query under the names of their columns. -/
structure QueryRows where
  columns : List String
  rows : List (List Json)
deriving Inhabited

/-- A client of a database. -/
structure Client where
  connection : Connection
  settings : Settings

namespace Client

/-- The kind of database that clients are for. -/
def backend : String := "mssql"

/-- Connects: checks the connection, finds the worker and starts it. `starts` tells of a path
whether a program starts there. -/
def connect (host : Host) (starts : String → Bool) (connection : Connection)
    (settings : Settings) : Except ClientError Client :=
  match connection.validate with
  | .error e => .error (.connection e)
  | .ok () =>
    match settings.workerPath? host with
    | none => .error (.worker .notFound)
    | some path => if starts path then .ok ⟨connection, settings⟩ else .error (.worker .spawnFailed)

/-- Connects with a connection of the settings, by its name or the default one. -/
def connectNamed (host : Host) (starts : String → Bool) (name : Option String)
    (settings : Settings) : Except ClientError Client :=
  match settings.connection host.environment name with
  | .error e => .error (.settings e)
  | .ok connection => connect host starts connection settings

/-- The server as the worker is told of it. -/
def server (c : Client) : Server :=
  ⟨Connection.driverName, c.connection.connectionString⟩

/-- Asks the worker, and goes on with the result if it has the right shape. -/
def asking {α β : Type} (call : Call) (read : Json → Option α)
    (next : α → Except ClientError β) : Action β :=
  .ask call fun outcome =>
    match WorkerError.readAs read outcome with
    | .ok a => next a
    | .error e => .error (.worker e)

/-- The names of the tables in which a pattern occurs, or of all, sorted and each once. -/
def listTables (c : Client) (like : Option String) : Action (List String) :=
  asking (.listTables c.server none) TableInfo.listOfJson? fun tables =>
    selectNames (tables.map (·.name)) like

/-- The schema of tables that are named without one. -/
def defaultSchema : String := "dbo"

/-- The table of a name. One without columns is not there. -/
def table (c : Client) (name : String) : Action Table :=
  let name := TableName.parse name
  asking (.getColumns c.server (name.schema.getD defaultSchema) name.name)
    ColumnInfo.listOfJson? fun columns =>
      if columns.isEmpty then .error (.tableNotFound name) else Table.ofColumns name columns

/-- The statement of a query with the limit on its rows, and its arguments. -/
def prepare (c : Client) (query : Query) (limit : RowLimit) (params : Params) :
    Except CompileError (String × List (String × Value)) := do
  let compiled ← compile query params
  let compiled :=
    match limit.resolve c.settings.defaultLimit with
    | some n => compiled.withLimit n
    | none => compiled
  let args ← compiled.args
  return (compiled.sql, args)

/-- Runs a query. Nothing is sent for one that does not compile or lacks an argument. -/
def execute (c : Client) (query : Query) (limit : RowLimit) (params : Params) :
    Action QueryRows :=
  match c.prepare query limit params with
  | .error e => .done (.error (.compile e))
  | .ok (sql, args) =>
    asking (.execute c.server sql args) ResultRows.ofJson? fun result =>
      .ok ⟨result.columns.map (·.name), result.rows⟩

end Client

end TransactSql
