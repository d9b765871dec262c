import TransactSql.Compile.Aliases
import TransactSql.NameTable

/-!
# Scopes

A scope is what the expressions of one statement share while the statement is put together: the
values that are known for parameters, the tables that have an alias, and the parameters that were
met, each with the value that was known for it. Tables get their aliases and parameters are recorded
on the way, so a computation in a scope gives a result or an error, and the next scope. One that
fails keeps what it recorded before it failed.
-/

namespace TransactSql

/-- The values of parameters. -/
abbrev Params := NameTable Value

/-- Whether a name can follow an at sign: a letter of ASCII or an underscore, then letters,
digits and underscores. -/
def isParamName (name : String) : Bool :=
  match name.toList with
  | [] => false
  | c :: rest => (c.isAlpha || c == '_') && rest.all fun c => c.isAlphanum || c == '_'

/-- Fails unless a name can follow an at sign. -/
def checkParamName (name : String) : Except CompileError Unit :=
  if isParamName name then .ok () else .error (.invalidExpression (.paramName name))

/-- What the expressions of one statement share. -/
structure Scope where
  params : Params
  aliases : Aliases
  recorded : NameTable (Option Value)

namespace Scope

/-- The scope of a statement without tables. -/
def new (params : Params) : Scope :=
  ⟨params, .empty, .empty⟩

/-- Gives the next alias to a table. -/
def register (s : Scope) (table : TableName) : Except CompileError String × Scope :=
  match s.aliases.register table with
  | .ok aliases => (.ok s.aliases.next, { s with aliases })
  | .error e => (.error e, s)

/-- The alias of a table. -/
def aliasOf (s : Scope) (table : TableName) : Except CompileError String :=
  s.aliases.find table

/-- Records a parameter with the value that is known for it, if there is one. -/
def record (s : Scope) (name : String) : Except CompileError Unit × Scope :=
  match checkParamName name with
  | .ok () => (.ok (), { s with recorded := s.recorded.insert name (s.params.get? name) })
  | .error e => (.error e, s)

end Scope

/-- A computation in a scope. It can fail, and the scope after it is there in any case. -/
abbrev InScope := ExceptT CompileError (StateM Scope)

/-- Runs a computation in a scope: its result, and the scope after it. -/
def Scope.exec {α : Type} (s : Scope) (x : InScope α) : Except CompileError α × Scope :=
  x.run.run s

namespace InScope

/-- Gives the next alias to a table. -/
def register (table : TableName) : InScope String :=
  fun s => s.register table

/-- Records a parameter. -/
def record (name : String) : InScope Unit :=
  fun s => s.record name

/-- Ends with a shape that no statement can express. -/
def invalid {α : Type} (shape : InvalidShape) : InScope α :=
  throw (.invalidExpression shape)

end InScope

end TransactSql
