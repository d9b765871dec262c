import TransactSql.Scalar.Basic

/-!
# Errors of compilation

Why an expression or a relation has no statement. Each cause carries what its message names.
-/

namespace TransactSql

/-- How many operands an operation takes. -/
structure Arity where
  least : Nat
  most : Option Nat
deriving DecidableEq, Repr, Inhabited

namespace Arity

/-- Exactly so many operands. -/
def exactly (n : Nat) : Arity :=
  ⟨n, some n⟩

/-- So many operands or more. -/
def atLeast (n : Nat) : Arity :=
  ⟨n, none⟩

/-- Whether a number of operands is taken. -/
def admits (a : Arity) (n : Nat) : Bool :=
  a.least ≤ n && a.most.all (n ≤ ·)

/-- An arity in messages. -/
def shown (a : Arity) : String :=
  match a.most with
  | some most =>
    if a.least = most then toString most else toString a.least ++ " to " ++ toString most
  | none => "at least " ++ toString a.least

end Arity

/-- Why an expression has a shape that no statement can express. -/
inductive InvalidShape where
  /-- A number without a literal. -/
  | notFinite (x : Binary64)
  /-- A value where a condition is needed. -/
  | notCondition (expr : String)
  /-- A cast without a type. -/
  | noTarget (node : String)
  /-- A name that no variable can have. -/
  | paramName (name : String)
  /-- One table twice in a statement. -/
  | repeatedTable (table : TableName)
  /-- A scalar over several tables. -/
  | severalTables (tables : List TableName)
  /-- A selection or an aggregation where a table or a join is needed. -/
  | nestedSource
  /-- A join with what is no table. -/
  | rightNotTable
  /-- An aggregation that computes nothing. -/
  | emptyAggregation
deriving DecidableEq, Repr

/-- The message of a cause. -/
def InvalidShape.message : InvalidShape → String
  | notFinite x => "float literal " ++ Decimal.shown x ++ " has no SQL representation"
  | notCondition expr => expr ++ " is not a boolean condition"
  | noTarget node => node ++ " has no target type"
  | paramName name => "parameter name " ++ Text.shown name ++ " is not a valid identifier"
  | repeatedTable table =>
    "table '" ++ table.shown ++ "' appears more than once; self-joins are not supported"
  | severalTables tables =>
    "scalar expression references " ++ toString tables.length ++ " tables ("
      ++ String.intercalate ", " (tables.map (·.shown))
      ++ "); join them into a relation first"
  | nestedSource => "nested selections and aggregations cannot be used as a source"
  | rightNotTable => "the right side of a join must be a table"
  | emptyAggregation => "aggregation needs at least one grouping key or metric"

/-- Why something does not compile. -/
inductive CompileError where
  /-- The server has no such operation; `node` is the node in messages. -/
  | unsupportedOperation (op : Operation) (node : String)
  /-- The server has no such type. -/
  | unsupportedType (type : LogicalType)
  /-- An operation has too few or too many operands. -/
  | invalidArity (op : Operation) (expected : Arity) (found : Nat)
  /-- A column of a table that the statement does not have. -/
  | unknownTable (table : TableName)
  /-- A column that its table does not have. -/
  | unknownColumn (table : TableName) (column : String)
  /-- A shape that no statement can express. -/
  | invalidExpression (shape : InvalidShape)
  /-- A parameter without a value when the statement is run. -/
  | unboundParameter (name : String)
  /-- A value for a parameter that the statement does not have. -/
  | unknownParameter (name : String)
deriving DecidableEq, Repr

namespace CompileError

/-- The message of an error. -/
def message : CompileError → String
  | unsupportedOperation op node =>
    "SQL Server backend doesn't support the " ++ op.name ++ " operation: " ++ node
  | unsupportedType type => "SQL Server backend has no native type for " ++ type.shown
  | invalidArity op expected found =>
    op.name ++ " expects " ++ expected.shown ++ " argument(s), got " ++ toString found
  | unknownTable table => "table '" ++ table.shown ++ "' is not part of this query"
  | unknownColumn table column =>
    "table '" ++ table.shown ++ "' has no column '" ++ column ++ "'"
  | invalidExpression shape => "invalid expression: " ++ shape.message
  | unboundParameter name => "parameter '" ++ name ++ "' is not bound"
  | unknownParameter name => "query has no parameter named '" ++ name ++ "'"

/-- The operation that an error is about. -/
def operation? : CompileError → Option Operation
  | unsupportedOperation op _ | invalidArity op .. => some op
  | _ => none

end CompileError

end TransactSql
