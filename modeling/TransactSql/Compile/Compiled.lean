import TransactSql.Compile.Statement

/-!
# Compiled queries

A compiled query is a statement with the table of its parameters, where a parameter without a
value is still unbound. The statement stays structured, so that a limit can be lowered and values
can be bound until it is run.
-/

namespace TransactSql

/-- A statement and its parameters. -/
structure Compiled where
  select : Sql.Select
  params : NameTable (Option Value)
deriving Inhabited

/-- Compiles a query, with the values that are known already. The parameters of the statement are
those that the scope has recorded in the end. -/
def compile (query : Query) (params : Params) : Except CompileError Compiled :=
  match (Scope.new params).exec (InScope.query (query.normalize .base)) with
  | (.ok select, scope) => .ok ⟨select, scope.recorded⟩
  | (.error e, _) => .error e

namespace Compiled

/-- The statement as Transact-SQL. -/
def sql (c : Compiled) : String :=
  c.select.sql .tsql

/-- Binds a value to a parameter of the statement. -/
def bind (c : Compiled) (name : String) (value : Value) : Except CompileError Compiled :=
  match checkParamName name with
  | .error e => .error e
  | .ok () =>
    if c.params.contains name then .ok { c with params := c.params.insert name (some value) }
    else .error (.unknownParameter name)

/-- The parameters without a value, by ascending name. -/
def unbound (c : Compiled) : List String :=
  (c.params.entries.filter (·.2.isNone)).map (·.1)

/-- Keeps at most `n` rows, and fewer where the statement keeps fewer already. -/
def withLimit (c : Compiled) (n : UInt64) : Compiled :=
  let page := c.select.paging.getD {}
  let least :=
    match page.limit with
    | some existing => min existing n
    | none => n
  { c with select := { c.select with paging := some { page with limit := some least } } }

/-- The value of a parameter that must have one. -/
def boundArg (entry : String × Option Value) : Except CompileError (String × Value) :=
  match entry.2 with
  | some value => .ok (entry.1, value)
  | none => .error (.unboundParameter entry.1)

/-- The values of all parameters, by ascending name; a parameter without a value is an error. -/
def args (c : Compiled) : Except CompileError (List (String × Value)) :=
  c.params.entries.mapM boundArg

end Compiled

end TransactSql
