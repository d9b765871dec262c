import TransactSql.Config.Environment
import TransactSql.Text.LowerCase

/-!
# Connections

How a server is reached. Either a URL says it all, or the options do one by one; without a user
the connection is trusted, which leaves the login to the operating system.
-/

namespace TransactSql

/-- The options of a connection. -/
structure Connection where
  host : String := "localhost"
  user : Option String := none
  password : Option String := none
  portNumber : UInt16 := 1433
  database : String := "master"
  driver : String := "mssql"
  odbcDriver : String := "ODBC Driver 17 for SQL Server"
  /-- Takes the place of the other options. -/
  url : Option String := none
deriving DecidableEq, Repr, Inhabited

namespace Connection

/-- Whether the login is left to the operating system. -/
def trusted (c : Connection) : Bool :=
  c.url.isNone && c.user.isNone

/-- The names of drivers for SQL Server. -/
def isSupportedDriver (name : String) : Bool :=
  name == "mssql" || name == "sqlserver" || name == "sql_server"

/-- Checks that the options can be used: the driver first, then the login. -/
def validate (c : Connection) : Except ConnectionError Unit :=
  if !isSupportedDriver (Text.lower c.driver) then
    .error (.unsupportedDriver (Text.lower c.driver))
  else if c.trusted && c.password.isSome then .error .passwordWithoutUser
  else .ok ()

/-- The name by which the worker knows the driver. -/
def driverName : String := "mssql"

/-- How the login is written: for a trusted connection one option, for a user its name and, if
there is one, its password. -/
def login (c : Connection) (trust userKey passwordKey : String) : List String :=
  if c.trusted then [trust]
  else
    match c.user with
    | none => []
    | some user =>
      (userKey ++ "=" ++ user) ::
        (match c.password with
        | some password => [passwordKey ++ "=" ++ password]
        | none => [])

/-- The connection as a URL. -/
def connectionString (c : Connection) : String :=
  match c.url with
  | some url => url
  | none =>
    let parts := ["database=" ++ c.database]
      ++ c.login "trusted_connection=true" "user id" "password"
      ++ ["odbc_driver=" ++ c.odbcDriver]
    "sqlserver://" ++ c.host ++ ":" ++ toString c.portNumber.toNat ++ "?"
      ++ String.intercalate "&" parts

/-- The connection as a list of options for ODBC. -/
def odbcString (c : Connection) : String :=
  let parts := ["DRIVER=\x7b" ++ c.odbcDriver ++ "\x7d",
    "SERVER=" ++ c.host ++ "," ++ toString c.portNumber.toNat,
    "DATABASE=" ++ c.database] ++ c.login "Trusted_Connection=yes" "UID" "PWD"
  String.intercalate ";" parts

/-- The number that digits write, if it has at most 16 bits. -/
def numberOf? (digits : List Char) : Option UInt16 :=
  let n := digits.foldl (fun n c => n * 10 + (c.toNat - '0'.toNat)) 0
  if !digits.isEmpty && digits.all Char.isDigit && n < UInt16.size then some (UInt16.ofNat n)
  else none

/-- Reads a number of 16 bits, which may have a plus sign. -/
def parsePortNumber? (s : String) : Option UInt16 :=
  match s.toList with
  | '+' :: digits => numberOf? digits
  | digits => numberOf? digits

/-- The connection that the variables describe. -/
def ofEnvironment (env : Environment) : Except ConnectionError Connection := do
  let start : Connection := {}
  let portNumber ←
    match env.get? "MSSQL_PORT" with
    | none => .ok start.portNumber
    | some text =>
      match parsePortNumber? text with
      | some n => .ok n
      | none => .error (.invalidPort text)
  let c : Connection := { start with
    host := (env.get? "MSSQL_HOST").getD start.host
    portNumber
    database := (env.get? "MSSQL_DATABASE").getD start.database
    user := env.get? "MSSQL_USER"
    password := env.get? "MSSQL_PASSWORD"
    url := env.get? "MSSQL_URL" }
  c.validate
  return c

end Connection

end TransactSql
