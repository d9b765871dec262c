import TransactSql.Compile.Error
import TransactSql.Config.Error
import TransactSql.Worker.Error

/-!
# Errors of the client

A client fails for the reasons of its parts, and for some of its own.
-/

namespace TransactSql

/-- Why a client cannot do what it is asked for. -/
inductive ClientError where
  | compile (error : CompileError)
  | worker (error : WorkerError)
  | connection (error : ConnectionError)
  | settings (error : SettingsError)
  /-- A text that is no pattern. -/
  | invalidPattern
  | tableNotFound (table : TableName)
  /-- A column whose type has no logical type. -/
  | unmappedType (column dataType : String)
deriving DecidableEq, Repr

/-- The message of an error, where it does not come from the system or from a reader. -/
def ClientError.message? : ClientError → Option String
  | compile error => some error.message
  | worker error => error.message?
  | connection error => some error.message
  | settings error => error.message?
  | invalidPattern => none
  | tableNotFound table => some ("table not found: " ++ table.shown)
  | unmappedType column dataType =>
    some ("column " ++ column ++ " has unmapped type " ++ dataType)

end TransactSql
