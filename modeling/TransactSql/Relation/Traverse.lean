import TransactSql.Relation.Basic

/-!
# The expressions of a relation

Listing the expressions in a relation and changing each of them. Both go through a relation in
the same order: sources first, then what the outermost node adds, list by list.
-/

namespace TransactSql

namespace Named

/-- Changes the expression and keeps the name. -/
def mapM {m : Type → Type} [Monad m] (f : Scalar → m Scalar) (n : Named) : m Named := do
  let expr ← f n.expr
  return { n with expr }

end Named

namespace SortKey

/-- Changes the expression and keeps the direction. -/
def mapM {m : Type → Type} [Monad m] (f : Scalar → m Scalar) (k : SortKey) : m SortKey := do
  let expr ← f k.expr
  return { k with expr }

end SortKey

namespace Selection

/-- The expressions of a selection: projections, predicates, sort keys. -/
def expressions (s : Selection) : List Scalar :=
  s.projections.map (·.expr) ++ s.predicates ++ s.sortKeys.map (·.expr)

/-- Changes every expression of a selection. -/
def mapM {m : Type → Type} [Monad m] (f : Scalar → m Scalar) (s : Selection) : m Selection := do
  let projections ← s.projections.mapM (Named.mapM f)
  let predicates ← s.predicates.mapM f
  let sortKeys ← s.sortKeys.mapM (SortKey.mapM f)
  return { s with projections, predicates, sortKeys }

end Selection

namespace Aggregation

/-- The expressions of an aggregation: keys, metrics, predicates, group predicates, sort keys. -/
def expressions (a : Aggregation) : List Scalar :=
  a.keys.map (·.expr) ++ a.metrics.map (·.expr) ++ a.predicates ++ a.having
    ++ a.sortKeys.map (·.expr)

/-- Changes every expression of an aggregation. -/
def mapM {m : Type → Type} [Monad m] (f : Scalar → m Scalar) (a : Aggregation) :
    m Aggregation := do
  let keys ← a.keys.mapM (Named.mapM f)
  let metrics ← a.metrics.mapM (Named.mapM f)
  let predicates ← a.predicates.mapM f
  let having ← a.having.mapM f
  let sortKeys ← a.sortKeys.mapM (SortKey.mapM f)
  return { a with keys, metrics, predicates, having, sortKeys }

end Aggregation

namespace Relation

/-- The expressions in a relation. -/
def expressions : Relation → List Scalar
  | table _ => []
  | selection source parts => source.expressions ++ parts.expressions
  | aggregation source parts => source.expressions ++ parts.expressions
  | join left right _ predicates => left.expressions ++ right.expressions ++ predicates

/-- Changes every expression in a relation, with effects in the order of `expressions`. -/
def mapExpressionsM {m : Type → Type} [Monad m] (f : Scalar → m Scalar) : Relation → m Relation
  | table t => pure (table t)
  | selection source parts => do
    let source ← source.mapExpressionsM f
    let parts ← parts.mapM f
    return selection source parts
  | aggregation source parts => do
    let source ← source.mapExpressionsM f
    let parts ← parts.mapM f
    return aggregation source parts
  | join left right kind predicates => do
    let left ← left.mapExpressionsM f
    let right ← right.mapExpressionsM f
    let predicates ← predicates.mapM f
    return join left right kind predicates

/-- Changes every expression in a relation. -/
def mapExpressions (f : Scalar → Scalar) (r : Relation) : Relation :=
  Id.run (r.mapExpressionsM fun e => pure (f e))

/-! ## Equality -/

/-- Equality of lists, item by item. -/
def sameList {α : Type} (same : α → α → Bool) : List α → List α → Bool
  | [], [] => true
  | a :: as, b :: bs => same a b && sameList same as bs
  | _, _ => false

/-- Equality of named expressions. -/
def sameNamed (a b : Named) : Bool :=
  a.name == b.name && a.expr.same b.expr

/-- Equality of sort keys. -/
def sameKey (a b : SortKey) : Bool :=
  a.expr.same b.expr && a.descending == b.descending

/-- Equality of relations, where expressions are compared by `Scalar.same`. -/
def same : Relation → Relation → Bool
  | table s, table t => s == t
  | selection r₁ s₁, selection r₂ s₂ =>
    r₁.same r₂ && sameList sameNamed s₁.projections s₂.projections
      && sameList Scalar.same s₁.predicates s₂.predicates
      && sameList sameKey s₁.sortKeys s₂.sortKeys && s₁.limit == s₂.limit
  | aggregation r₁ a₁, aggregation r₂ a₂ =>
    r₁.same r₂ && sameList sameNamed a₁.keys a₂.keys && sameList sameNamed a₁.metrics a₂.metrics
      && sameList Scalar.same a₁.predicates a₂.predicates
      && sameList Scalar.same a₁.having a₂.having
      && sameList sameKey a₁.sortKeys a₂.sortKeys && a₁.limit == a₂.limit
  | join l₁ r₁ k₁ p₁, join l₂ r₂ k₂ p₂ =>
    l₁.same l₂ && r₁.same r₂ && k₁ == k₂ && sameList Scalar.same p₁ p₂
  | _, _ => false

end Relation

end TransactSql
