import TransactSql.Compile.Compiled
import TransactSql.Document.Scalar
import TransactSql.Relation.Build

/-!
# Relations and queries in documents

A relation is a table by its key and the steps that are applied to it one after the other. A query
is a relation, or an expression that may have a name.
-/

namespace TransactSql

/-- Reads an expression with its name. -/
def Named.ofJson? (tables : Tables) : Json → Option Named
  | .array [.string name, expr] => (Scalar.ofJson? tables expr).map (⟨name, ·⟩)
  | _ => none

/-- Reads a sort key; without a direction it is ascending. -/
def SortKey.ofJson? (tables : Tables) (value : Json) : Option SortKey :=
  match value.member? "asc", value.member? "desc" with
  | some expr, _ => (Scalar.ofJson? tables expr).map (⟨·, false⟩)
  | none, some expr => (Scalar.ofJson? tables expr).map (⟨·, true⟩)
  | none, none => (Scalar.ofJson? tables value).map (⟨·, false⟩)

/-- The name of a kind of join. -/
def JoinKind.name : JoinKind → String
  | inner => "inner"
  | left => "left"
  | right => "right"
  | outer => "outer"

/-- Reads a kind of join. -/
def JoinKind.ofJson? (value : Json) : Option JoinKind := do
  let name ← value.string?
  [inner, left, right, outer].find? (·.name == name)

namespace Relation

/-- Applies a step to a relation. `relation` reads the other side of a join. -/
def step? (tables : Tables) (relation : Json → Option Relation) (r : Relation) (value : Json) :
    Option Relation :=
  if value.has "filter" then
    (value.field "filter" (Json.listOf? (Scalar.ofJson? tables))).map r.filter
  else if value.has "select" then
    (value.field "select" (Json.listOf? (Named.ofJson? tables))).map r.select
  else if value.has "order_by" then
    (value.field "order_by" (Json.listOf? (SortKey.ofJson? tables))).map r.orderBy
  else if value.has "limit" then do
    match ← value.field "limit" (Json.listOf? Json.uint64?) with
    | [count, offset] => return r.limit count offset
    | _ => none
  else if value.has "aggregate" then do
    let keys ← value.filled? "group_by" (Json.listOf? (Named.ofJson? tables))
    let metrics ← value.field "aggregate" (Json.listOf? (Named.ofJson? tables))
    return r.aggregate (keys.getD []) metrics
  else if value.has "join" then do
    return .join r (← value.field "join" relation) (← value.field "kind" JoinKind.ofJson?)
      (← value.field "on" (Json.listOf? (Scalar.ofJson? tables)))
  else none

/-- Reads a relation with at most `depth` levels of arrays and objects. -/
def ofJsonWithin? (tables : Tables) : Nat → Json → Option Relation
  | 0, _ => none
  | depth + 1, value => do
    let table ← tables.lookup (← value.field "table" Json.string?)
    let steps ← value.filled? "steps" (Json.listOf? some)
    (steps.getD []).foldlM (step? tables (ofJsonWithin? tables depth)) (.table table)

/-- Reads a relation. -/
def ofJson? (tables : Tables) (value : Json) : Option Relation :=
  ofJsonWithin? tables value.depth value

end Relation

/-- Reads a query. -/
def Query.ofJson? (tables : Tables) (value : Json) : Option Query :=
  match value.member? "rel" with
  | some r => (Relation.ofJson? tables r).map .relation
  | none => do
    return .scalar (← value.field "expr" (Scalar.ofJson? tables))
      (← value.filled? "name" Json.string?)

/-- Reads the values of parameters, if a document has any. -/
def Params.ofJson? (value : Json) : Option Params := do
  let entries := ((← value.filled? "params" Json.members?).getD [])
  return .ofList (← entries.mapM fun (name, v) => return (name, ← Value.ofJson? v))

end TransactSql
