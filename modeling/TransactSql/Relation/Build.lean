import TransactSql.Relation.Basic

/-!
# Building relations

Each step changes the outermost selection or aggregation where that has the same meaning, and
puts a new selection around the relation where it has not: after a limit nothing may be filtered,
sorted or limited in place, and after a projection nothing may be filtered or projected in place.
-/

namespace TransactSql.Relation

/-- Keeps the rows on which every predicate holds. -/
def filter (r : Relation) (predicates : List Scalar) : Relation :=
  match r with
  | selection source parts =>
    if parts.limit.isNone && parts.projections.isEmpty then
      selection source { parts with predicates := parts.predicates ++ predicates }
    else selection r { predicates }
  | aggregation source parts =>
    if parts.limit.isNone then
      aggregation source { parts with having := parts.having ++ predicates }
    else selection r { predicates }
  | r => selection r { predicates }

/-- Computes the named values for every row. -/
def select (r : Relation) (projections : List Named) : Relation :=
  match r with
  | selection source parts =>
    if parts.limit.isNone && parts.projections.isEmpty then
      selection source { parts with projections }
    else selection r { projections }
  | r => selection r { projections }

/-- Sorts by keys, after the keys by which the rows are sorted already. -/
def orderBy (r : Relation) (keys : List SortKey) : Relation :=
  match r with
  | selection source parts =>
    if parts.limit.isNone then
      selection source { parts with sortKeys := parts.sortKeys ++ keys }
    else selection r { sortKeys := keys }
  | aggregation source parts =>
    if parts.limit.isNone then
      aggregation source { parts with sortKeys := parts.sortKeys ++ keys }
    else selection r { sortKeys := keys }
  | r => selection r { sortKeys := keys }

/-- Skips `offset` rows and keeps at most `count` of the others. -/
def limit (r : Relation) (count offset : UInt64) : Relation :=
  let limit := some ⟨count, offset⟩
  match r with
  | selection source parts =>
    if parts.limit.isNone then selection source { parts with limit }
    else selection r { limit }
  | aggregation source parts =>
    if parts.limit.isNone then aggregation source { parts with limit }
    else selection r { limit }
  | r => selection r { limit }

/-- Groups by keys and computes metrics of every group. A selection that only filters becomes
part of the aggregation. -/
def aggregate (r : Relation) (keys metrics : List Named) : Relation :=
  match r with
  | selection source parts =>
    if parts.projections.isEmpty && parts.sortKeys.isEmpty && parts.limit.isNone then
      aggregation source { keys, metrics, predicates := parts.predicates }
    else aggregation r { keys, metrics }
  | r => aggregation r { keys, metrics }

end TransactSql.Relation
