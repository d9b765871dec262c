import TransactSql.Compile.Lower
import TransactSql.Compile.Rules
import TransactSql.Sql.Select

/-!
# Statements of queries

A query is a scalar or a relation. A scalar is selected from the one table that it refers to. A
relation becomes one statement, if it is a table, a join of a statement's source with a table, or
a selection or an aggregation of such a source; anything deeper has no single statement.

A statement is put together in one scope. The tables of the source are registered there from left
to right, and then the expressions are lowered, clause by clause.
-/

namespace TransactSql

open Sql (Expr Select SelectItem TableRef JoinClause JoinType OrderItem)

/-- What can be compiled. -/
inductive Query where
  /-- An expression, selected under a name. -/
  | scalar (expr : Scalar) (name : Option String)
  | relation (relation : Relation)
deriving Inhabited

namespace Query

/-- Applies rules to every expression of a query. -/
def normalize (rules : RuleSet) : Query → Query
  | scalar e name => scalar (rules.normalize e) name
  | relation r => relation (rules.normalizeRelation r)

/-- The name of a scalar without one. -/
def defaultName : String := "tmp"

end Query

namespace Statement

/-- A table under its alias. -/
def tableRef (table : TableName) (asName : String) : TableRef where
  schema := table.schema
  table := table.name
  asName := some asName

/-- The join of the server for a kind of join. -/
def joinType : JoinKind → JoinType
  | .inner => .inner
  | .left => .left
  | .right => .right
  | .outer => .full

/-- All columns of every table, in the order of the tables. -/
def allColumns (aliases : Aliases) : List SelectItem :=
  aliases.names.map fun name => { expr := .star (some name) }

/-- Whether an expression is a column of a name. -/
def isColumnNamed (e : Scalar) (name : String) : Bool :=
  match e with
  | .column _ column _ => column == name
  | _ => false

/-- Sets limit and offset. -/
def page (select : Select) : Option Limit → Select
  | some limit => (select.limit limit.count).offset limit.offset
  | none => select

end Statement

namespace InScope

open Statement (tableRef joinType allColumns isColumnNamed page)

/-- The conjunction of join predicates, none where there are none. -/
def conjunction (predicates : List Scalar) : InScope (Option Expr) :=
  predicates.foldlM
    (fun combined p => do
      let condition ← lower .condition p
      match combined with
      | some existing => return some (.binary existing.nested .and condition.nested)
      | none => return some condition)
    none

/-- The source of a statement: its tables, registered from left to right, and its joins. -/
def source : Relation → InScope Select
  | .table t => do
    let name ← register t.name
    return { source := some (tableRef t.name name) }
  | .join left right kind predicates => do
    let select ← source left
    match right with
    | .table t => do
      let name ← register t.name
      let condition ← conjunction predicates
      return select.join ⟨joinType kind, tableRef t.name name, condition⟩
    | _ => invalid .rightNotTable
  | .selection .. | .aggregation .. => invalid .nestedSource

/-- An item of the select list. A column that has the name already gets no alias. -/
def item (n : Named) : InScope SelectItem := do
  let expr ← lower .value n.expr
  return { expr, asName := if isColumnNamed n.expr n.name then none else some n.name }

/-- A key of the order. -/
def orderItem (key : SortKey) : InScope OrderItem := do
  let expr ← lower .value key.expr
  return ⟨expr, key.descending⟩

/-- Adds conditions on rows, one after the other. -/
def restrictAll (select : Select) (predicates : List Scalar) : InScope Select :=
  predicates.foldlM (fun s p => do return s.restrict (← lower .condition p)) select

/-- Adds conditions on groups, one after the other. -/
def restrictAllGroups (select : Select) (predicates : List Scalar) : InScope Select :=
  predicates.foldlM (fun s p => do return s.restrictGroups (← lower .condition p)) select

/-- The statement of a selection of a source. -/
def selection (r : Relation) (parts : Selection) : InScope Select := do
  let select ← source r
  let items ←
    if parts.projections.isEmpty then pure (allColumns (← get).aliases)
    else parts.projections.mapM item
  let select ← restrictAll { select with items } parts.predicates
  let orderBy ← parts.sortKeys.mapM orderItem
  return page { select with orderBy } parts.limit

/-- The statement of an aggregation of a source. -/
def aggregation (r : Relation) (parts : Aggregation) : InScope Select := do
  let select ← source r
  let select ← restrictAll select parts.predicates
  let keys ← parts.keys.mapM item
  let metrics ← parts.metrics.mapM item
  let grouped := { select with items := keys ++ metrics, groupBy := keys.map (·.expr) }
  let select ← restrictAllGroups grouped parts.having
  let orderBy ← parts.sortKeys.mapM orderItem
  return page { select with orderBy } parts.limit

/-- The statement of a relation. -/
def relation : Relation → InScope Select
  | .selection r parts => selection r parts
  | .aggregation r parts =>
    if parts.keys.isEmpty && parts.metrics.isEmpty then invalid .emptyAggregation
    else aggregation r parts
  | r => do
    let select ← source r
    return { select with items := allColumns (← get).aliases }

/-- The statement of a scalar. -/
def scalar (e : Scalar) (name : String) : InScope Select :=
  match e.tables with
  | [] => do
    let expr ← lower .value e
    return { items := [⟨expr, some name⟩] }
  | [table] => do
    let tableAlias ← register table
    let expr ← lower .value e
    return {
      items := [⟨expr, some name⟩]
      source := some (tableRef table tableAlias) }
  | tables => invalid (.severalTables tables)

/-- The statement of a query to which the rules have been applied. -/
def query : Query → InScope Select
  | .scalar e name => scalar e (name.getD Query.defaultName)
  | .relation r => relation r

end InScope

end TransactSql
