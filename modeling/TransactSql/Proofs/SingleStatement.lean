import Mathlib
import TransactSql.Proofs.Acceptance
import TransactSql.Proofs.Building

/-!
# Which relations are one statement

A relation compiles when it has the shape of a statement and all of its expressions are accepted
where they stand. `Relation.OneStatement` says so without following compilation, and
`compiles_iff_oneStatement` shows that exactly these relations compile.

The shape is that of the relation as it was built. A call either leaves the source of the outermost
selection or aggregation as it is, or puts something around the whole relation (`Relation.Grown`),
so a relation without the shape never gets it back: `hasShape_of_grown` for one call and
`hasShape_of_build` for any number of calls.
-/

namespace TransactSql

open Sql (Select)

/-! ## Relations of one statement -/

namespace Relation

/-- A table, or a join of such a relation with a table. -/
def isSource : Relation → Bool
  | table _ => true
  | join left (table _) _ _ => left.isSource
  | _ => false

/-- A source, or a selection or an aggregation of one. -/
def hasShape : Relation → Bool
  | selection source _ | aggregation source _ => source.isSource
  | r => r.isSource

/-- The names of the tables of a relation, from left to right. -/
def tableNames (r : Relation) : List TableName :=
  r.leaves.map (·.name)

theorem tableNames_join_table (left : Relation) (t : Table) (kind : JoinKind)
    (predicates : List Scalar) :
    (join left (table t) kind predicates).tableNames = left.tableNames ++ [t.name] := by
  simp [tableNames, leaves]

/-- The expressions that the outermost selection or aggregation takes as conditions. -/
def conditions : Relation → List Scalar
  | selection _ parts => parts.predicates
  | aggregation _ parts => parts.predicates ++ parts.having
  | table _ | join .. => []

/-- The expressions that the outermost selection or aggregation takes as values. -/
def values : Relation → List Scalar
  | selection _ parts => parts.projections.map (·.expr) ++ parts.sortKeys.map (·.expr)
  | aggregation _ parts =>
    parts.keys.map (·.expr) ++ parts.metrics.map (·.expr) ++ parts.sortKeys.map (·.expr)
  | table _ | join .. => []

/-- An outermost aggregation has a key or a metric. -/
def computes : Relation → Bool
  | aggregation _ parts => !parts.keys.isEmpty || !parts.metrics.isEmpty
  | table _ | selection .. | join .. => true

end Relation

/-- Lowering accepts an expression with these tables registered, and no others. -/
def AcceptedWith (tables : List TableName) (role : Role) (e : Scalar) : Prop :=
  ∃ aliases : Aliases, aliases.tables = tables ∧ Lower.Accepts aliases role e

namespace Relation

/-- The predicates of each join are accepted with the tables of its two sides. -/
def JoinsAccepted : Relation → Prop
  | table _ => True
  | selection source _ | aggregation source _ => source.JoinsAccepted
  | join left right kind predicates =>
    left.JoinsAccepted ∧ right.JoinsAccepted ∧
      ∀ p ∈ predicates, AcceptedWith (join left right kind predicates).tableNames .condition p

/-- What a relation must be to become one statement. -/
structure OneStatement (r : Relation) : Prop where
  shape : r.hasShape
  tables : r.tableNames.Nodup
  computes : r.computes
  joins : r.JoinsAccepted
  conditions : ∀ e ∈ r.conditions, AcceptedWith r.tableNames .condition e
  values : ∀ e ∈ r.values, AcceptedWith r.tableNames .value e

end Relation

theorem acceptedWith_iff {aliases : Aliases} {tables : List TableName} {role : Role} {e : Scalar}
    (h : aliases.tables = tables) : AcceptedWith tables role e ↔ Lower.Accepts aliases role e := by
  constructor
  · rintro ⟨aliases', htables, haccepts⟩
    rwa [← Aliases.eq_of_tables_eq (htables.trans h.symm)]
  · intro haccepts
    exact ⟨aliases, h, haccepts⟩

/-! ## Clauses -/

namespace Statement

variable {aliases : Aliases}

theorem exists_conjunction {predicates : List Scalar} :
    (∃ c, (conjunction aliases predicates).result = .ok c) ↔
      ∀ p ∈ predicates, Lower.Accepts aliases .condition p := by
  refine Lowering.exists_result_foldlM fun combined p => ?_
  cases combined with
  | none => exact Lowering.exists_result_bind_pure
  | some existing => exact Lowering.exists_result_bind_pure

theorem exists_restrictAll {select : Select} {predicates : List Scalar} :
    (∃ s, (restrictAll aliases select predicates).result = .ok s) ↔
      ∀ p ∈ predicates, Lower.Accepts aliases .condition p :=
  Lowering.exists_result_foldlM fun _ _ => Lowering.exists_result_bind_pure

theorem exists_restrictAllGroups {select : Select} {predicates : List Scalar} :
    (∃ s, (restrictAllGroups aliases select predicates).result = .ok s) ↔
      ∀ p ∈ predicates, Lower.Accepts aliases .condition p :=
  Lowering.exists_result_foldlM fun _ _ => Lowering.exists_result_bind_pure

theorem exists_items {named : List Named} :
    (∃ items, (named.mapM (item aliases)).result = .ok items) ↔
      ∀ e ∈ named.map (·.expr), Lower.Accepts aliases .value e := by
  rw [Lowering.exists_result_mapM, List.forall_mem_map]
  exact forall₂_congr fun _ _ => Lowering.exists_result_bind_pure

theorem exists_orderItems {keys : List SortKey} :
    (∃ orderBy, (keys.mapM (orderItem aliases)).result = .ok orderBy) ↔
      ∀ e ∈ keys.map (·.expr), Lower.Accepts aliases .value e := by
  rw [Lowering.exists_result_mapM, List.forall_mem_map]
  exact forall₂_congr fun _ _ => Lowering.exists_result_bind_pure

/-- Without projections nothing is lowered for the items. -/
theorem exists_selectionItems {parts : Selection} :
    (∃ items, (selectionItems aliases parts).result = .ok items) ↔
      ∀ e ∈ parts.projections.map (·.expr), Lower.Accepts aliases .value e := by
  unfold selectionItems
  split
  · next hempty => simp [List.isEmpty_iff.1 hempty]
  · exact exists_items

/-! ## Statements of a source -/

theorem exists_selection {src : Source} {parts : Selection} :
    (∃ s, (selection src parts).result = .ok s) ↔
      (∀ e ∈ parts.projections.map (·.expr), Lower.Accepts src.aliases .value e) ∧
      (∀ e ∈ parts.predicates, Lower.Accepts src.aliases .condition e) ∧
      (∀ e ∈ parts.sortKeys.map (·.expr), Lower.Accepts src.aliases .value e) := by
  rw [selection_eq, ← exists_selectionItems, ← exists_orderItems]
  refine Lowering.exists_result_bind fun items _ => ?_
  rw [← exists_restrictAll]
  exact Lowering.exists_result_bind fun select _ => Lowering.exists_result_bind_pure

theorem exists_aggregation {src : Source} {parts : Aggregation} :
    (∃ s, (aggregation src parts).result = .ok s) ↔
      (∀ e ∈ parts.predicates, Lower.Accepts src.aliases .condition e) ∧
      (∀ e ∈ parts.keys.map (·.expr), Lower.Accepts src.aliases .value e) ∧
      (∀ e ∈ parts.metrics.map (·.expr), Lower.Accepts src.aliases .value e) ∧
      (∀ e ∈ parts.having, Lower.Accepts src.aliases .condition e) ∧
      (∀ e ∈ parts.sortKeys.map (·.expr), Lower.Accepts src.aliases .value e) := by
  unfold aggregation
  rw [← @exists_restrictAll _ src.select, ← exists_items, ← exists_items, ← exists_orderItems]
  refine Lowering.exists_result_bind fun select _ => ?_
  refine Lowering.exists_result_bind fun keys _ => ?_
  refine Lowering.exists_result_bind fun metrics _ => ?_
  rw [← exists_restrictAllGroups]
  exact Lowering.exists_result_bind fun grouped _ => Lowering.exists_result_bind_pure

/-! ## Sources -/

theorem tables_of_source {r : Relation} {src : Source} (h : (source r).result = .ok src) :
    src.aliases.tables = r.tableNames := by
  induction r generalizing src with
  | table t =>
    rw [source, Lowering.result_bind_eq_ok] at h
    obtain ⟨aliases, haliases, h⟩ := h
    rw [Lowering.result_ofExcept] at haliases
    cases h
    exact Aliases.tables_of_register haliases
  | join left right kind predicates ihleft _ =>
    rw [source, Lowering.result_bind_eq_ok] at h
    obtain ⟨l, hl, h⟩ := h
    split at h
    · simp only [Lowering.result_bind_eq_ok, Lowering.result_ofExcept] at h
      obtain ⟨aliases, haliases, condition, -, h⟩ := h
      cases h
      rw [Aliases.tables_of_register haliases, ihleft hl, Relation.tableNames_join_table]
    · cases h
  | selection source parts => cases h
  | aggregation source parts => cases h

/-- A join with a table: the left side is a source, the table is new to it, and the predicates are
accepted with the tables of both. -/
theorem exists_source_join_table {left : Relation} {t : Table} {kind : JoinKind}
    {predicates : List Scalar} :
    (∃ src, (source (.join left (.table t) kind predicates)).result = .ok src) ↔
      (∃ src, (source left).result = .ok src) ∧ t.name ∉ left.tableNames ∧
        ∀ p ∈ predicates, AcceptedWith (left.tableNames ++ [t.name]) .condition p := by
  rw [source]
  simp only [Lowering.result_bind_eq_ok, Lowering.result_ofExcept, Lowering.result_pure]
  constructor
  · rintro ⟨_, l, hl, aliases, haliases, condition, hcondition, -⟩
    obtain ⟨hnew, htables⟩ := Aliases.register_eq_ok.1 haliases
    rw [tables_of_source hl] at hnew htables
    refine ⟨⟨l, hl⟩, hnew, ?_⟩
    intro p hp
    rw [acceptedWith_iff htables]
    exact exists_conjunction.1 ⟨condition, hcondition⟩ p hp
  · rintro ⟨⟨l, hl⟩, hnew, haccepted⟩
    rw [← tables_of_source hl] at hnew haccepted
    obtain ⟨aliases, haliases⟩ : ∃ aliases, l.aliases.register t.name = .ok aliases := by
      rw [Aliases.register, dif_neg hnew]
      exact ⟨_, rfl⟩
    have htables := Aliases.tables_of_register haliases
    obtain ⟨condition, hcondition⟩ := exists_conjunction.2 fun p hp =>
      (acceptedWith_iff htables).1 (haccepted p hp)
    exact ⟨_, l, hl, aliases, haliases, condition, hcondition, rfl⟩

theorem exists_source {r : Relation} :
    (∃ src, (source r).result = .ok src) ↔
      r.isSource ∧ r.tableNames.Nodup ∧ r.JoinsAccepted := by
  induction r with
  | table t =>
    have hregister : ∃ src, (source (.table t)).result = .ok src := ⟨_, rfl⟩
    simp [hregister, Relation.isSource, Relation.tableNames, Relation.leaves,
      Relation.JoinsAccepted]
  | join left right kind predicates ihleft _ =>
    cases right with
    | table t =>
      rw [exists_source_join_table, ihleft]
      simp only [Relation.JoinsAccepted, Relation.tableNames_join_table, Relation.isSource,
        List.nodup_append_comm, List.singleton_append, List.nodup_cons]
      tauto
    | _ =>
      rw [source]
      simp [Relation.isSource]
  | selection source parts => simp [Statement.source, Relation.isSource]
  | aggregation source parts => simp [Statement.source, Relation.isSource]

/-! ## Relations -/

theorem exists_selection_of_source {r : Relation} {src : Source} {parts : Selection}
    (hsrc : (source r).result = .ok src) :
    (∃ s, (selection src parts).result = .ok s) ↔
      (∀ e ∈ (Relation.selection r parts).conditions, AcceptedWith r.tableNames .condition e) ∧
      (∀ e ∈ (Relation.selection r parts).values, AcceptedWith r.tableNames .value e) := by
  simp only [exists_selection, Relation.conditions, Relation.values, List.forall_mem_append,
    acceptedWith_iff (tables_of_source hsrc)]
  tauto

theorem exists_aggregation_of_source {r : Relation} {src : Source} {parts : Aggregation}
    (hsrc : (source r).result = .ok src) :
    (∃ s, (aggregation src parts).result = .ok s) ↔
      (∀ e ∈ (Relation.aggregation r parts).conditions, AcceptedWith r.tableNames .condition e) ∧
      (∀ e ∈ (Relation.aggregation r parts).values, AcceptedWith r.tableNames .value e) := by
  simp only [exists_aggregation, Relation.conditions, Relation.values, List.forall_mem_append,
    acceptedWith_iff (tables_of_source hsrc)]
  tauto

/-- A relation has a statement exactly if it is one statement. -/
theorem exists_ofRelation {r : Relation} :
    (∃ s, (ofRelation r).result = .ok s) ↔ r.OneStatement := by
  cases r with
  | table _ | join _ _ _ _ =>
    simp only [ofRelation]
    rw [Lowering.exists_result_bind_pure, exists_source]
    constructor
    · rintro ⟨hshape, htables, hjoins⟩
      refine ⟨hshape, htables, rfl, hjoins, ?_, ?_⟩
      · exact fun _ h => absurd h List.not_mem_nil
      · exact fun _ h => absurd h List.not_mem_nil
    · rintro ⟨hshape, htables, -, hjoins, -, -⟩
      exact ⟨hshape, htables, hjoins⟩
  | selection r parts =>
    rw [ofRelation, Lowering.exists_result_bind fun _ => exists_selection_of_source, exists_source]
    constructor
    · rintro ⟨⟨hshape, htables, hjoins⟩, hconditions, hvalues⟩
      exact ⟨hshape, htables, rfl, hjoins, hconditions, hvalues⟩
    · rintro ⟨hshape, htables, -, hjoins, hconditions, hvalues⟩
      exact ⟨⟨hshape, htables, hjoins⟩, hconditions, hvalues⟩
  | aggregation r parts =>
    rw [ofRelation]
    split
    · next hempty =>
      have hcomputes : ¬(Relation.aggregation r parts).computes := by
        simpa [Relation.computes] using hempty
      simp only [Lowering.result_invalid, reduceCtorEq, exists_false, false_iff]
      exact fun h => hcomputes h.computes
    · next hempty =>
      have hcomputes : (Relation.aggregation r parts).computes := by
        simpa [Relation.computes, Decidable.imp_iff_not_or] using hempty
      rw [Lowering.exists_result_bind fun _ => exists_aggregation_of_source, exists_source]
      constructor
      · rintro ⟨⟨hshape, htables, hjoins⟩, hconditions, hvalues⟩
        exact ⟨hshape, htables, hcomputes, hjoins, hconditions, hvalues⟩
      · rintro ⟨hshape, htables, -, hjoins, hconditions, hvalues⟩
        exact ⟨⟨hshape, htables, hjoins⟩, hconditions, hvalues⟩

end Statement

theorem exists_compile_relation {r : Relation} {params : Params} :
    (∃ c, compile (.relation r) params = .ok c) ↔
      (RuleSet.base.normalizeRelation r).OneStatement := by
  rw [← Statement.exists_ofRelation]
  constructor
  · rintro ⟨c, hc⟩
    exact ⟨c.select, (compile_eq_ok.1 hc).1⟩
  · rintro ⟨s, hs⟩
    exact ⟨⟨s, _⟩, compile_eq_ok.2 ⟨hs, rfl⟩⟩

/-! ## Shapes -/

namespace Relation

/-- A selection or an aggregation. -/
def isLayer : Relation → Bool
  | selection .. | aggregation .. => true
  | table _ | join .. => false

/-- The right side of a join is a table; what is no join has no right side. -/
def joinsTable : Relation → Bool
  | join _ (table _) _ _ => true
  | join .. => false
  | table _ | selection .. | aggregation .. => true

/-- The relations that a relation is made of, itself apart. -/
def inner : Relation → List Relation
  | table _ => []
  | selection source _ | aggregation source _ => source :: source.inner
  | join left right _ _ => left :: left.inner ++ right :: right.inner

theorem isSource_iff (r : Relation) :
    r.isSource ↔ ∀ s ∈ r :: r.inner, ¬s.isLayer ∧ s.joinsTable := by
  induction r with
  | table t => simp [isSource, inner, isLayer, joinsTable]
  | selection source parts => simp [isSource, isLayer]
  | aggregation source parts => simp [isSource, isLayer]
  | join left right kind predicates ihleft _ =>
    cases right with
    | table t =>
      have hjoin : ¬(join left (table t) kind predicates).isLayer ∧
          (join left (table t) kind predicates).joinsTable := ⟨nofun, rfl⟩
      have htable : ¬(table t).isLayer ∧ (table t).joinsTable := ⟨nofun, rfl⟩
      show left.isSource ↔ ∀ s ∈ join left (table t) kind predicates ::
        ((left :: left.inner) ++ [table t]), _
      rw [List.forall_mem_cons, and_iff_right hjoin, List.forall_mem_append,
        List.forall_mem_singleton, and_iff_left htable, ihleft]
    | _ => simp [isSource, joinsTable]

/-- A relation has the shape of a statement when no selection and no aggregation lies below
another node, and the right side of every join is a table. -/
theorem hasShape_iff (r : Relation) :
    r.hasShape ↔ (∀ s ∈ r.inner, ¬s.isLayer) ∧ ∀ s ∈ r :: r.inner, s.joinsTable := by
  cases r with
  | selection source parts | aggregation source parts =>
    rw [hasShape, isSource_iff]
    simp [inner, joinsTable, forall_and]
  | table _ | join _ _ _ _ =>
    simp only [hasShape]
    rw [isSource_iff]
    simp [isLayer, forall_and]

theorem isSource_mapExpressions (f : Scalar → Scalar) (r : Relation) :
    (r.mapExpressions f).isSource = r.isSource := by
  induction r with
  | table t => rfl
  | selection source parts => simp [mapExpressions_selection, isSource]
  | aggregation source parts => simp [mapExpressions_aggregation, isSource]
  | join left right kind predicates ihleft _ =>
    rw [mapExpressions_join]
    cases right with
    | table t => exact ihleft
    | selection source parts => simp [mapExpressions_selection, isSource]
    | aggregation source parts => simp [mapExpressions_aggregation, isSource]
    | join l r k ps => simp [mapExpressions_join, isSource]

/-- Changing expressions keeps the shape. -/
theorem hasShape_mapExpressions (f : Scalar → Scalar) (r : Relation) :
    (r.mapExpressions f).hasShape = r.hasShape := by
  cases r with
  | table t => rfl
  | selection source parts =>
    rw [mapExpressions_selection]
    exact isSource_mapExpressions f source
  | aggregation source parts =>
    rw [mapExpressions_aggregation]
    exact isSource_mapExpressions f source
  | join left right kind predicates =>
    have hjoin := isSource_mapExpressions f (join left right kind predicates)
    rw [mapExpressions_join] at hjoin ⊢
    exact hjoin

theorem hasShape_of_isSource {r : Relation} (h : r.isSource) : r.hasShape := by
  cases r with
  | selection source parts => simp [isSource] at h
  | aggregation source parts => simp [isSource] at h
  | table _ | join _ _ _ _ => exact h

theorem isSource_left {left right : Relation} {kind : JoinKind} {predicates : List Scalar}
    (h : (join left right kind predicates).isSource) : left.isSource := by
  cases right with
  | table t => exact h
  | _ => simp [isSource] at h

/-- A call gives no relation the shape of a statement that had not had it before. -/
theorem hasShape_of_grown {r r' : Relation} {c : Call} (h : Grown r c r') (hshape : r'.hasShape) :
    r.hasShape := by
  cases h with
  -- what is put around the whole relation needs it as a source
  | selected _ _ => exact hasShape_of_isSource hshape
  | grouped _ _ => exact hasShape_of_isSource hshape
  | joined _ => exact hasShape_of_isSource (isSource_left hshape)
  -- otherwise the source stays what it was
  | selection hr _ _ => rw [hr]; exact hshape
  | aggregation hr _ _ => rw [hr]; exact hshape
  | folded hr _ _ => rw [hr]; exact hshape

theorem hasShape_of_build {r : Relation} {calls : List Call} (h : (r.build calls).hasShape) :
    r.hasShape := by
  induction calls generalizing r with
  | nil => exact h
  | cons c calls ih => exact hasShape_of_grown (grown_call c) (ih h)

end Relation

/-- A relation compiles exactly if, with the rules applied, it is one statement. Whether it has the
shape for that is settled once and for all: when a selection or an aggregation lies below another
node, or a join has something else than a table on its right side, no further calls lead to a
relation that compiles. -/
theorem compiles_iff_oneStatement (r : Relation) :
    (∀ params, (∃ c, compile (.relation r) params = .ok c) ↔
      (RuleSet.base.normalizeRelation r).OneStatement) ∧
    (¬r.hasShape ↔
      (∃ s ∈ r.inner, s.isLayer) ∨ ∃ s ∈ r :: r.inner, ¬s.joinsTable) ∧
    (¬r.hasShape → ∀ calls params c, compile (.relation (r.build calls)) params ≠ .ok c) := by
  refine ⟨fun params => exists_compile_relation, ?_, ?_⟩
  · rw [Relation.hasShape_iff, not_and_or]
    push Not
    rfl
  · intro hshape calls params c hc
    have hone := exists_compile_relation.1 ⟨c, hc⟩
    have hbuilt : (r.build calls).hasShape := by
      rw [← Relation.hasShape_mapExpressions RuleSet.base.normalize]
      exact hone.shape
    exact hshape (Relation.hasShape_of_build hbuilt)

/-- The first rows of a table are a statement. Filtered afterwards they are none, whatever else is
done with them. -/
theorem compiles_iff_oneStatement_filter_after_limit :
    let t : Table := ⟨⟨none, "t"⟩, [("id", .int64)]⟩
    let firstRows : Relation := (Relation.table t).limit 5 0
    let filtered : Relation := firstRows.filter [.apply .notNull [t.column "id"]]
    (∃ c, compile (.relation firstRows) .empty = .ok c) ∧ ¬filtered.hasShape ∧
      ∀ calls params c, compile (.relation (filtered.build calls)) params ≠ .ok c := by
  intro t firstRows filtered
  have hshape : ¬filtered.hasShape := by decide
  obtain ⟨-, -, hpermanent⟩ := compiles_iff_oneStatement filtered
  exact ⟨⟨_, rfl⟩, hshape, hpermanent hshape⟩

end TransactSql
