/-!
# Errors of the worker

The worker is a process that talks to the database. Either it cannot be reached, or it replies
with an error, whose code says what went wrong.
-/

namespace TransactSql

/-- Why a request to the worker has no result. -/
inductive WorkerError where
  /-- The process could not be started. -/
  | spawnFailed
  /-- There is no program to start. -/
  | notFound
  /-- The request could not be sent. -/
  | writeFailed
  /-- The result has another shape than the request asks for. -/
  | unreadable
  /-- No reply came within so many seconds. -/
  | timeout (seconds : UInt64)
  /-- The process ended before it replied. -/
  | exited
  /-- Nobody was left to hand on a reply. -/
  | channelClosed
  /-- An error with a code that has no meaning of its own. -/
  | remote (code message : String)
  | driverNotFound (message : String)
  | connectionFailed (message : String)
  | queryFailed (message : String)
  | invalidRequest (message : String)
  | methodNotFound (message : String)
deriving DecidableEq, Repr

namespace WorkerError

/-- The error that a code and a message stand for. -/
def ofCode (code message : String) : WorkerError :=
  match code with
  | "DRIVER_NOT_FOUND" => driverNotFound message
  | "CONNECTION_FAILED" => connectionFailed message
  | "QUERY_FAILED" => queryFailed message
  | "INVALID_REQUEST" => invalidRequest message
  | "METHOD_NOT_FOUND" => methodNotFound message
  | "WORKER_EXITED" => exited
  | _ => remote code message

/-- Whether the process is gone. -/
def isExited : WorkerError → Bool
  | exited | channelClosed => true
  | _ => false

/-- Whether the same request may succeed later. -/
def isRetriable : WorkerError → Bool
  | timeout _ | exited | channelClosed => true
  | _ => false

/-- The message of an error, where it does not come from the system or from a reader. -/
def message? : WorkerError → Option String
  | spawnFailed | writeFailed | unreadable => none
  | notFound => some "worker binary not found; set worker.path in mssql-compiler.toml"
  | timeout seconds =>
    some ("request timed out after " ++ toString seconds.toNat ++ " seconds")
  | exited => some "worker process exited unexpectedly"
  | channelClosed => some "response channel closed unexpectedly"
  | remote code message => some ("worker error: " ++ message ++ " (code: " ++ code ++ ")")
  | driverNotFound message => some ("database driver not found: " ++ message)
  | connectionFailed message => some ("database connection failed: " ++ message)
  | queryFailed message => some ("query failed: " ++ message)
  | invalidRequest message => some ("invalid request: " ++ message)
  | methodNotFound message => some ("method not found: " ++ message)

end WorkerError

end TransactSql
