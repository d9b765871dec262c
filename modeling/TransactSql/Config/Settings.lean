import TransactSql.Config.Connection
import TransactSql.Toml.Parser
import TransactSql.Toml.Record

/-!
# Settings

What a configuration file holds: connections by name, how the worker process is run, and how many
rows a query returns unless it says otherwise. Everything but the URL of a connection has a
default.
-/

namespace TransactSql

/-- A connection by its URL, in which variables may be named. -/
structure NamedConnection where
  url : String
  odbcDriver : Option String := none
deriving DecidableEq, Repr, Inhabited

/-- How the worker keeps connections for reuse. -/
structure PoolSettings where
  maxIdle : UInt32 := 5
  maxOpen : UInt32 := 10
  lifetime : String := "5m"
  idleTime : String := "1m"
deriving DecidableEq, Repr, Inhabited

/-- How the worker process is run. -/
structure WorkerSettings where
  path : Option String := none
  /-- Seconds to wait for a reply. -/
  timeout : UInt64 := 30
  pool : PoolSettings := {}
deriving DecidableEq, Repr, Inhabited

/-- What a configuration file holds. -/
structure Settings where
  connections : NameTable NamedConnection := .empty
  worker : WorkerSettings := {}
  defaultLimit : UInt64 := 10000

namespace NamedConnection

/-- Reads a connection. -/
def ofToml? (value : Toml) : Option NamedConnection := do
  let members ← value.record? ["url", "odbc_driver"]
  let url ← (members.lookup "url").bind Toml.string?
  let odbcDriver ← Toml.memberOr members "odbc_driver" (fun v => v.string?.map some) none
  return ⟨url, odbcDriver⟩

/-- The connection with the variables in its URL replaced. -/
def toConnection (env : Environment) (c : NamedConnection) : Except SettingsError Connection :=
  (env.expand c.url).map fun url =>
    let start : Connection := { url := some url }
    { start with odbcDriver := c.odbcDriver.getD start.odbcDriver }

end NamedConnection

namespace PoolSettings

/-- Reads how connections are kept. -/
def ofToml? (value : Toml) : Option PoolSettings := do
  let members ← value.record?
    ["max_idle_conns", "max_open_conns", "conn_max_lifetime", "conn_max_idle_time"]
  let start : PoolSettings := {}
  return {
    maxIdle := ← Toml.memberOr members "max_idle_conns" Toml.uint32? start.maxIdle
    maxOpen := ← Toml.memberOr members "max_open_conns" Toml.uint32? start.maxOpen
    lifetime := ← Toml.memberOr members "conn_max_lifetime" Toml.string? start.lifetime
    idleTime := ← Toml.memberOr members "conn_max_idle_time" Toml.string? start.idleTime }

/-- The arguments with which the worker is started. -/
def arguments (pool : PoolSettings) : List String :=
  ["-pool", "-pool-max-idle=" ++ toString pool.maxIdle.toNat,
    "-pool-max-open=" ++ toString pool.maxOpen.toNat,
    "-pool-conn-lifetime=" ++ pool.lifetime, "-pool-conn-idle=" ++ pool.idleTime]

end PoolSettings

/-- Reads how the worker is run. -/
def WorkerSettings.ofToml? (value : Toml) : Option WorkerSettings := do
  let members ← value.record? ["path", "timeout_secs", "pool"]
  let start : WorkerSettings := {}
  return {
    path := ← Toml.memberOr members "path" (fun v => v.string?.map some) start.path
    timeout := ← Toml.memberOr members "timeout_secs" Toml.uint64? start.timeout
    pool := ← Toml.memberOr members "pool" PoolSettings.ofToml? start.pool }

namespace Settings

/-- Reads connections by name. -/
def connectionsOfToml? : Toml → Option (NameTable NamedConnection)
  | .table _ members => do
    let entries ← members.mapM fun (name, value) => do
      return (name, ← NamedConnection.ofToml? value)
    return .ofList entries
  | _ => none

/-- Reads the number of rows that a query returns. -/
def limitOfToml? (value : Toml) : Option UInt64 := do
  let members ← value.record? ["default_limit"]
  let start : Settings := {}
  Toml.memberOr members "default_limit" Toml.uint64? start.defaultLimit

/-- Reads settings. -/
def ofToml? (value : Toml) : Option Settings := do
  let members ← value.record? ["connections", "worker", "compiler"]
  let start : Settings := {}
  return {
    connections := ← Toml.memberOr members "connections" connectionsOfToml? start.connections
    worker := ← Toml.memberOr members "worker" WorkerSettings.ofToml? start.worker
    defaultLimit := ← Toml.memberOr members "compiler" limitOfToml? start.defaultLimit }

/-- The settings that a text holds. -/
def parse (text : String) : Except SettingsError Settings :=
  match (Toml.parse? text).bind ofToml? with
  | some settings => .ok settings
  | none => .error .malformed

/-- The connection named `default`, or else the first one by name. -/
def defaultConnection? (s : Settings) : Option (String × NamedConnection) :=
  match s.connections.get? "default" with
  | some c => some ("default", c)
  | none => s.connections.entries.head?

/-- The options of a connection by its name, or of the default one. -/
def connection (s : Settings) (env : Environment) (name : Option String) :
    Except SettingsError Connection :=
  let found : Option NamedConnection :=
    match name with
    | some name => s.connections.get? name
    | none => s.defaultConnection?.map (·.2)
  match found with
  | some c => c.toConnection env
  | none => .error (.connectionNotFound (name.getD "default"))

end Settings

end TransactSql
