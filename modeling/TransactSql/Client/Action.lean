import TransactSql.Client.Error
import TransactSql.Json.Basic
import TransactSql.Worker.Call

/-!
# Actions of the client

What a client does is either finished without the worker, or one call of the worker and what
follows from its outcome. So it can be seen whether anything is sent, and what.
-/

namespace TransactSql

/-- Something that a client does. -/
inductive Action (α : Type) where
  | done (result : Except ClientError α)
  | ask (call : Call) (next : Except WorkerError Json → Except ClientError α)

namespace Action

variable {α : Type}

/-- The call that an action sends. -/
def call? : Action α → Option Call
  | done _ => none
  | ask call _ => some call

/-- The result of an action, given what the worker makes of a call. -/
def run (answer : Call → Except WorkerError Json) : Action α → Except ClientError α
  | done result => result
  | ask call next => next (answer call)

end Action

end TransactSql
