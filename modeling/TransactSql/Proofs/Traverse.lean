import Mathlib.Data.List.Forall2
import Mathlib.Tactic.Common
import TransactSql.Relation.Traverse

/-!
# Going through expressions and relations

An operation holds its operands in a list, so the induction that goes with the type of expressions
speaks of lists as well; `Scalar.induct` is the one that proofs use, and `outputType_op_none` gives
the inferred type of an operation without the list of types. Changing the expressions of a
relation without effects is described part by part, and from this follow its two laws:
`expressions_mapExpressions` and `mapExpressions_mapExpressions`.

`Relation.Matches` compares two relations place by place: they agree in all that is no expression,
and expressions at the same place are related. A relation matches what `mapExpressions` makes of
it.
-/

namespace TransactSql

namespace Scalar

/-- Induction on expressions: an operation has what its operands and its filter have. -/
@[elab_as_elim]
theorem induct {P : Scalar → Prop} (literal : ∀ value type, P (.literal value type))
    (column : ∀ table name type, P (.column table name type))
    (param : ∀ name type, P (.param name type))
    (op : ∀ kind args type filter, (∀ a ∈ args, P a) → (∀ f ∈ filter, P f) →
      P (.op kind args type filter))
    (e : Scalar) : P e := by
  refine @Scalar.rec P (fun args => ∀ a ∈ args, P a) (fun filter => ∀ f ∈ filter, P f)
    literal column param op ?_ ?_ ?_ ?_ e
  · simp
  · intro a args ha hargs
    exact List.forall_mem_cons.2 ⟨ha, hargs⟩
  · simp
  · intro f hf
    simpa using hf

/-- Without an explicit type a node has the type of its operation, or that of one operand. -/
theorem outputType_op_none {kind : Operation} {args : List Scalar} {filter : Option Scalar} :
    (op kind args none filter).outputType =
      match kind.resultType with
      | .fixed type => some type
      | .ofOperand i => args[i]?.bind outputType := by
  have hmap : ∀ args, outputTypes args = args.map outputType := by
    intro args
    induction args with
    | nil => rfl
    | cons a rest ih => rw [outputTypes, ih, List.map_cons]
  rw [outputType]
  cases kind.resultType with
  | fixed type => rfl
  | ofOperand i =>
    simp only [hmap, List.getElem?_map]
    cases args[i]? <;> rfl

end Scalar

/-! ## Relations -/

namespace Relation

variable (f g : Scalar → Scalar)

theorem mapExpressions_selection (source : Relation) (parts : Selection) :
    (selection source parts).mapExpressions f =
      selection (source.mapExpressions f)
        { parts with
          projections := parts.projections.map fun n => { n with expr := f n.expr }
          predicates := parts.predicates.map f
          sortKeys := parts.sortKeys.map fun k => { k with expr := f k.expr } } := by
  simp [mapExpressions, mapExpressionsM, Selection.mapM, Named.mapM, SortKey.mapM]

theorem mapExpressions_aggregation (source : Relation) (parts : Aggregation) :
    (aggregation source parts).mapExpressions f =
      aggregation (source.mapExpressions f)
        { parts with
          keys := parts.keys.map fun n => { n with expr := f n.expr }
          metrics := parts.metrics.map fun n => { n with expr := f n.expr }
          predicates := parts.predicates.map f
          having := parts.having.map f
          sortKeys := parts.sortKeys.map fun k => { k with expr := f k.expr } } := by
  simp [mapExpressions, mapExpressionsM, Aggregation.mapM, Named.mapM, SortKey.mapM]

theorem mapExpressions_join (left right : Relation) (kind : JoinKind)
    (predicates : List Scalar) :
    (join left right kind predicates).mapExpressions f =
      join (left.mapExpressions f) (right.mapExpressions f) kind (predicates.map f) := by
  simp [mapExpressions, mapExpressionsM]

/-- Each expression of a relation is changed, and there are no others afterwards. -/
theorem expressions_mapExpressions (r : Relation) :
    (r.mapExpressions f).expressions = r.expressions.map f := by
  induction r with
  | table t => rfl
  | selection source parts ih =>
    simp [mapExpressions_selection, expressions, Selection.expressions, ih, Function.comp_def]
  | aggregation source parts ih =>
    simp [mapExpressions_aggregation, expressions, Aggregation.expressions, ih,
      Function.comp_def]
  | join left right kind predicates ihleft ihright =>
    simp [mapExpressions_join, expressions, ihleft, ihright]

theorem mapExpressions_mapExpressions (r : Relation) :
    (r.mapExpressions f).mapExpressions g = r.mapExpressions fun e => g (f e) := by
  induction r with
  | table t => rfl
  | selection source parts ih => simp [mapExpressions_selection, ih, Function.comp_def]
  | aggregation source parts ih => simp [mapExpressions_aggregation, ih, Function.comp_def]
  | join left right kind predicates ihleft ihright =>
    simp [mapExpressions_join, ihleft, ihright, Function.comp_def]

end Relation

/-! ## Relations that differ in their expressions only -/

/-- A list and what a function makes of it, item by item. -/
theorem forall₂_map_of_forall {α : Type} {Q : α → α → Prop} {f : α → α} (h : ∀ a, Q a (f a))
    (l : List α) : List.Forall₂ Q l (l.map f) :=
  List.forall₂_map_right_iff.2 (List.forall₂_same.2 fun a _ => h a)

/-- The same name, and related expressions. -/
structure Named.Matches (R : Scalar → Scalar → Prop) (n m : Named) : Prop where
  name : m.name = n.name
  expr : R n.expr m.expr

/-- The same direction, and related expressions. -/
structure SortKey.Matches (R : Scalar → Scalar → Prop) (k l : SortKey) : Prop where
  descending : l.descending = k.descending
  expr : R k.expr l.expr

/-- Item by item the same names and directions, the same limit, and related expressions. -/
structure Selection.Matches (R : Scalar → Scalar → Prop) (s t : Selection) : Prop where
  projections : List.Forall₂ (Named.Matches R) s.projections t.projections
  predicates : List.Forall₂ R s.predicates t.predicates
  sortKeys : List.Forall₂ (SortKey.Matches R) s.sortKeys t.sortKeys
  limit : t.limit = s.limit

/-- Item by item the same names and directions, the same limit, and related expressions. -/
structure Aggregation.Matches (R : Scalar → Scalar → Prop) (a b : Aggregation) : Prop where
  keys : List.Forall₂ (Named.Matches R) a.keys b.keys
  metrics : List.Forall₂ (Named.Matches R) a.metrics b.metrics
  predicates : List.Forall₂ R a.predicates b.predicates
  having : List.Forall₂ R a.having b.having
  sortKeys : List.Forall₂ (SortKey.Matches R) a.sortKeys b.sortKeys
  limit : b.limit = a.limit

namespace Relation

/-- The same tables, nested in the same way with the same kinds of joins, and related expressions
at the same places. -/
inductive Matches (R : Scalar → Scalar → Prop) : Relation → Relation → Prop
  | table (t : Table) : Matches R (.table t) (.table t)
  | selection {source source' : Relation} {parts parts' : Selection}
      (hsource : Matches R source source') (hparts : parts.Matches R parts') :
      Matches R (.selection source parts) (.selection source' parts')
  | aggregation {source source' : Relation} {parts parts' : Aggregation}
      (hsource : Matches R source source') (hparts : parts.Matches R parts') :
      Matches R (.aggregation source parts) (.aggregation source' parts')
  | join {left left' right right' : Relation} (kind : JoinKind)
      {predicates predicates' : List Scalar} (hleft : Matches R left left')
      (hright : Matches R right right') (hpredicates : List.Forall₂ R predicates predicates') :
      Matches R (.join left right kind predicates) (.join left' right' kind predicates')

/-- Changing every expression of a relation changes nothing else. -/
theorem matches_mapExpressions {R : Scalar → Scalar → Prop} {f : Scalar → Scalar}
    (h : ∀ e, R e (f e)) (r : Relation) : Matches R r (r.mapExpressions f) := by
  have hnamed : ∀ n : Named, Named.Matches R n { n with expr := f n.expr } :=
    fun n => ⟨rfl, h n.expr⟩
  have hkey : ∀ k : SortKey, SortKey.Matches R k { k with expr := f k.expr } :=
    fun k => ⟨rfl, h k.expr⟩
  induction r with
  | table t => exact .table t
  | selection source parts ih =>
    rw [mapExpressions_selection]
    exact .selection ih {
      projections := forall₂_map_of_forall hnamed _
      predicates := forall₂_map_of_forall h _
      sortKeys := forall₂_map_of_forall hkey _
      limit := rfl }
  | aggregation source parts ih =>
    rw [mapExpressions_aggregation]
    exact .aggregation ih {
      keys := forall₂_map_of_forall hnamed _
      metrics := forall₂_map_of_forall hnamed _
      predicates := forall₂_map_of_forall h _
      having := forall₂_map_of_forall h _
      sortKeys := forall₂_map_of_forall hkey _
      limit := rfl }
  | join left right kind predicates ihleft ihright =>
    rw [mapExpressions_join]
    exact .join kind ihleft ihright (forall₂_map_of_forall h _)

end Relation

end TransactSql
