import TransactSql.Scalar.Operation
import TransactSql.Scalar.TableName
import TransactSql.Scalar.Value

/-!
# Scalar expressions

An expression is a literal, a column, a parameter, or an operation on operands. This module has
the type and what can be read off an expression: its text in messages, the type of its result
and the tables that it refers to.
-/

namespace TransactSql

/-- An expression that has one value per row. -/
inductive Scalar where
  /-- A literal, where `type` stands in for the natural type of the value. -/
  | literal (value : Value) (type : Option LogicalType)
  /-- A column of a table, without a type when the table has no such column. -/
  | column (table : TableName) (name : String) (type : Option LogicalType)
  /-- A named parameter. -/
  | param (name : String) (type : LogicalType)
  /-- An operation on operands, with an explicit result type (the target of a cast) and the
  filter that restricts the rows of a reduction. -/
  | op (kind : Operation) (args : List Scalar) (type : Option LogicalType)
      (filter : Option Scalar)
deriving Inhabited

/-- The parts of an operation node. -/
structure Node where
  kind : Operation
  args : List Scalar
  type : Option LogicalType := none
  filter : Option Scalar := none
deriving Inhabited

/-- The expression of a node. -/
def Node.toScalar (node : Node) : Scalar :=
  .op node.kind node.args node.type node.filter

namespace Scalar

/-! ## Text in messages -/

mutual

/-- An expression in messages: operations as calls, with a reduction's filter after `where`. -/
def shown : Scalar → String
  | literal value none => value.shown
  | literal value (some type) => value.shown ++ ":" ++ type.shown
  | column table name _ => table.shown ++ "." ++ name
  | param name _ => "$" ++ name
  | op kind args _ filter =>
    kind.name ++ "(" ++ String.intercalate ", " (shownArgs args) ++ shownFilter filter ++ ")"

/-- The operands, each as text. -/
def shownArgs : List Scalar → List String
  | [] => []
  | arg :: rest => arg.shown :: shownArgs rest

/-- The filter of a node. -/
def shownFilter : Option Scalar → String
  | none => ""
  | some filter => " where " ++ filter.shown

end

/-! ## Result type -/

mutual

/-- The type of an expression's value, where it can be inferred. -/
def outputType : Scalar → Option LogicalType
  | literal value type => type <|> value.naturalType
  | column _ _ type => type
  | param _ type => some type
  | op _ _ (some type) _ => some type
  | op kind args none _ =>
    match kind.resultType with
    | .fixed type => some type
    | .ofOperand position => ((outputTypes args)[position]?).join

/-- The types of operands. -/
def outputTypes : List Scalar → List (Option LogicalType)
  | [] => []
  | arg :: rest => arg.outputType :: outputTypes rest

end

/-! ## Tables -/

mutual

/-- The table of each column in an expression, operands before the filter. -/
def columnTables : Scalar → List TableName
  | column table _ _ => [table]
  | op _ args _ filter => columnTablesOfArgs args ++ columnTablesOfFilter filter
  | literal .. | param .. => []

/-- `columnTables` through operands from left to right. -/
def columnTablesOfArgs : List Scalar → List TableName
  | [] => []
  | arg :: rest => arg.columnTables ++ columnTablesOfArgs rest

/-- `columnTables` of the filter of a node. -/
def columnTablesOfFilter : Option Scalar → List TableName
  | none => []
  | some filter => filter.columnTables

end

/-- The tables that an expression refers to, each once, in the order in which they first occur. -/
def tables (e : Scalar) : List TableName :=
  e.columnTables.eraseDups

/-! ## Depth -/

mutual

/-- How deep operations are nested in an expression; a leaf has depth zero. -/
def depth : Scalar → Nat
  | op _ args _ filter => max (depthOfArgs args) (depthOfFilter filter) + 1
  | literal .. | column .. | param .. => 0

/-- The greatest depth of an operand. -/
def depthOfArgs : List Scalar → Nat
  | [] => 0
  | arg :: rest => max arg.depth (depthOfArgs rest)

/-- The depth of a filter. -/
def depthOfFilter : Option Scalar → Nat
  | none => 0
  | some filter => filter.depth

end

/-! ## Equality -/

mutual

/-- Equality of expressions, where literals are compared as values are: an expression with a NaN
differs from itself. -/
def same : Scalar → Scalar → Bool
  | literal v s, literal w t => v.same w && s == t
  | column t₁ n₁ ty₁, column t₂ n₂ ty₂ => t₁ == t₂ && n₁ == n₂ && ty₁ == ty₂
  | param n₁ ty₁, param n₂ ty₂ => n₁ == n₂ && ty₁ == ty₂
  | op k₁ args₁ ty₁ f₁, op k₂ args₂ ty₂ f₂ =>
    k₁ == k₂ && sameArgs args₁ args₂ && ty₁ == ty₂ && sameFilter f₁ f₂
  | _, _ => false

/-- `same` operand by operand. -/
def sameArgs : List Scalar → List Scalar → Bool
  | [], [] => true
  | a :: as, b :: bs => same a b && sameArgs as bs
  | _, _ => false

/-- `same` for filters. -/
def sameFilter : Option Scalar → Option Scalar → Bool
  | none, none => true
  | some f, some g => same f g
  | _, _ => false

end

end Scalar

end TransactSql
