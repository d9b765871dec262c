/-!
# Errors of configuration

Why options of a connection cannot be used, and why settings cannot be had.
-/

namespace TransactSql

/-- Why a server cannot be reached with the options of a connection. -/
inductive ConnectionError where
  /-- A driver that is not one for SQL Server, by its name in small letters. -/
  | unsupportedDriver (driver : String)
  /-- A text that numbers no endpoint. -/
  | invalidPort (text : String)
  /-- Options that contradict each other. -/
  | passwordWithoutUser
deriving DecidableEq, Repr

/-- The message of an error. -/
def ConnectionError.message : ConnectionError → String
  | unsupportedDriver driver => "Unsupported driver: " ++ driver ++ ". Supported: mssql"
  | invalidPort text => "Invalid port: " ++ text
  | passwordWithoutUser => "Invalid configuration: password given without user"

/-- Why settings, or what they describe, cannot be had. -/
inductive SettingsError where
  /-- No file has that path. -/
  | fileNotFound (path : String)
  /-- The file is no text. -/
  | unreadable
  /-- The text does not hold settings. -/
  | malformed
  /-- A variable that a text refers to is not set. -/
  | missingVariable (name : String)
  /-- No connection has that name. -/
  | connectionNotFound (name : String)
deriving DecidableEq, Repr

/-- The message of an error, where it does not come from the system or from a reader. -/
def SettingsError.message? : SettingsError → Option String
  | fileNotFound path => some ("Config file not found: " ++ path)
  | unreadable | malformed => none
  | missingVariable name => some ("Missing environment variable: " ++ name)
  | connectionNotFound name => some ("Connection not found: " ++ name)

end TransactSql
