import Mathlib
import TransactSql.Proofs.Binding
import TransactSql.Proofs.SingleStatement

/-!
# What the clauses of a statement are made of

Every clause of a statement comes from certain expressions of its query. `Statement.Composed` names
them: the conditions of rows, of groups and of each join are the conjunctions of the lowered
predicates, with the tables registered that the clause sees, and all other expressions of the
statement are lowered values of the query or stand for all columns of a table.
`composed_of_compile` says this of everything that compiles, for the query after the rules.
-/

namespace TransactSql

open Sql (Expr Select SelectItem JoinClause OrderItem conjoin)

/-! ## Predicates of queries -/

/-- The tables that a join sees, and its predicates. -/
structure JoinScope where
  tables : List TableName
  predicates : List Scalar

namespace Relation

/-- The joins of a source from left to right; the right side of a join is a table. -/
def sourceJoins : Relation → List JoinScope
  | join left right kind predicates =>
    left.sourceJoins ++ [⟨(join left right kind predicates).tableNames, predicates⟩]
  | table _ | selection .. | aggregation .. => []

/-- The joins of a relation: those of its source. -/
def joinScopes : Relation → List JoinScope
  | selection source _ | aggregation source _ => source.sourceJoins
  | r => r.sourceJoins

/-- The predicates on the rows of the outermost selection or aggregation. -/
def rowPredicates : Relation → List Scalar
  | selection _ parts => parts.predicates
  | aggregation _ parts => parts.predicates
  | table _ | join .. => []

/-- The predicates on the groups of an outermost aggregation. -/
def groupPredicates : Relation → List Scalar
  | aggregation _ parts => parts.having
  | table _ | join .. | selection .. => []

variable (f : Scalar → Scalar)

theorem tableNames_mapExpressions (r : Relation) :
    (r.mapExpressions f).tableNames = r.tableNames := by
  have hleaves : (r.mapExpressions f).leaves = r.leaves := by
    induction r with
    | table t => rfl
    | selection source parts ih => simp [mapExpressions_selection, leaves, ih]
    | aggregation source parts ih => simp [mapExpressions_aggregation, leaves, ih]
    | join left right kind predicates ihleft ihright =>
      simp [mapExpressions_join, leaves, ihleft, ihright]
  unfold tableNames
  rw [hleaves]

theorem sourceJoins_mapExpressions (r : Relation) :
    (r.mapExpressions f).sourceJoins =
      r.sourceJoins.map fun scope => { scope with predicates := scope.predicates.map f } := by
  induction r with
  | table t => rfl
  | selection source parts => rw [mapExpressions_selection]; rfl
  | aggregation source parts => rw [mapExpressions_aggregation]; rfl
  | join left right kind predicates ihleft _ =>
    have htables := tableNames_mapExpressions f (join left right kind predicates)
    rw [mapExpressions_join] at htables ⊢
    simp [sourceJoins, htables, ihleft]

theorem joinScopes_mapExpressions (r : Relation) :
    (r.mapExpressions f).joinScopes =
      r.joinScopes.map fun scope => { scope with predicates := scope.predicates.map f } := by
  cases r with
  | table t => rfl
  | selection source parts =>
    rw [mapExpressions_selection]
    exact sourceJoins_mapExpressions f source
  | aggregation source parts =>
    rw [mapExpressions_aggregation]
    exact sourceJoins_mapExpressions f source
  | join left right kind predicates =>
    have hjoins := sourceJoins_mapExpressions f (join left right kind predicates)
    rw [mapExpressions_join] at hjoins ⊢
    exact hjoins

theorem rowPredicates_mapExpressions (r : Relation) :
    (r.mapExpressions f).rowPredicates = r.rowPredicates.map f := by
  cases r with
  | table t => rfl
  | selection source parts => simp [mapExpressions_selection, rowPredicates]
  | aggregation source parts => simp [mapExpressions_aggregation, rowPredicates]
  | join left right kind predicates => simp [mapExpressions_join, rowPredicates]

theorem groupPredicates_mapExpressions (r : Relation) :
    (r.mapExpressions f).groupPredicates = r.groupPredicates.map f := by
  cases r with
  | table t => rfl
  | selection source parts => simp [mapExpressions_selection, groupPredicates]
  | aggregation source parts => simp [mapExpressions_aggregation, groupPredicates]
  | join left right kind predicates => simp [mapExpressions_join, groupPredicates]

/-- A join sees the tables up to its own. -/
theorem tables_isPrefix_of_mem_sourceJoins {r : Relation} {scope : JoinScope}
    (h : scope ∈ r.sourceJoins) : scope.tables <+: r.tableNames := by
  induction r with
  | join left right kind predicates ihleft _ =>
    rcases List.mem_append.1 h with h | h
    · refine (ihleft h).trans ?_
      simp [tableNames, leaves]
    · obtain rfl := List.mem_singleton.1 h
      exact List.prefix_rfl
  | _ => cases h

theorem predicates_subset_of_mem_sourceJoins {r : Relation} {scope : JoinScope}
    (h : scope ∈ r.sourceJoins) : scope.predicates ⊆ r.joinPredicates := by
  induction r with
  | join left right kind predicates ihleft _ =>
    rcases List.mem_append.1 h with h | h
    · exact List.subset_append_of_subset_left _ (ihleft h)
    · obtain rfl := List.mem_singleton.1 h
      exact List.subset_append_right _ _
  | _ => cases h

end Relation

namespace Query

/-- The tables of a query. -/
def tableNames : Query → List TableName
  | scalar e _ => e.tables
  | relation r => r.tableNames

/-- The joins of a query; a scalar has none. -/
def joinScopes : Query → List JoinScope
  | scalar .. => []
  | relation r => r.joinScopes

/-- The predicates on the rows of a query. -/
def rowPredicates : Query → List Scalar
  | scalar .. => []
  | relation r => r.rowPredicates

/-- The predicates on the groups of a query. -/
def groupPredicates : Query → List Scalar
  | scalar .. => []
  | relation r => r.groupPredicates

theorem tables_isPrefix_of_mem_joinScopes {query : Query} {scope : JoinScope}
    (h : scope ∈ query.joinScopes) : scope.tables <+: query.tableNames := by
  cases query with
  | scalar e name => cases h
  | relation r =>
    cases r with
    | table t => cases h
    | join left right kind predicates => exact Relation.tables_isPrefix_of_mem_sourceJoins h
    | selection source parts | aggregation source parts =>
      exact Relation.tables_isPrefix_of_mem_sourceJoins (r := source) h

theorem predicates_subset_of_mem_joinScopes {query : Query} {scope : JoinScope}
    (h : scope ∈ query.joinScopes) : scope.predicates ⊆ query.written := by
  cases query with
  | scalar e name => cases h
  | relation r =>
    cases r with
    | table t => cases h
    | join left right kind predicates => exact Relation.predicates_subset_of_mem_sourceJoins h
    | selection source parts | aggregation source parts =>
      intro p hp
      have hmem := Relation.predicates_subset_of_mem_sourceJoins h hp
      simp [written, Relation.written, hmem]

theorem rowPredicates_subset_written (query : Query) : query.rowPredicates ⊆ query.written := by
  intro p hp
  cases query with
  | scalar e name => cases hp
  | relation r =>
    cases r with
    | table t => cases hp
    | join left right kind predicates => cases hp
    | selection source parts | aggregation source parts =>
      have hmem : p ∈ parts.predicates := hp
      simp [written, Relation.written, hmem]

theorem groupPredicates_subset_written (query : Query) : query.groupPredicates ⊆ query.written := by
  intro p hp
  cases query with
  | scalar e name => cases hp
  | relation r =>
    cases r with
    | aggregation source parts =>
      have hmem : p ∈ parts.having := hp
      simp [written, Relation.written, hmem]
    | _ => cases hp

end Query

/-- What an expression is lowered to with these tables registered, and no others. -/
def LoweredWith (tables : List TableName) (role : Role) (e : Scalar) (x : Expr) : Prop :=
  ∃ aliases : Aliases, aliases.tables = tables ∧ (Lower.lower aliases role e).result = .ok x

/-- A clause of predicates: what they are lowered to, combined. -/
def Combined (combine : List Expr → Option Expr) (tables : List TableName)
    (predicates : List Scalar) (clause : Option Expr) : Prop :=
  ∃ conditions, List.Forall₂ (LoweredWith tables .condition) predicates conditions ∧
    clause = combine conditions

namespace Statement

/-- The expressions of a statement that are no conditions of clauses. -/
def valueExprs (s : Select) : List Expr :=
  s.items.map (·.expr) ++ s.groupBy ++ s.orderBy.map (·.expr)

/-- What the clauses of a statement are made of, given the query that it is for. -/
structure Composed (query : Query) (s : Select) : Prop where
  tables : ∃ aliases : Aliases, aliases.tables = query.tableNames ∧ s.tables = aliases.refs
  values : ∀ x ∈ valueExprs s, (∃ table, x = .star table) ∨
    ∃ e ∈ query.written, LoweredWith query.tableNames .value e x
  on : List.Forall₂
    (fun scope j => Combined conjoinAllNested scope.tables scope.predicates j.condition)
    query.joinScopes s.joins
  condition : Combined conjoinAll query.tableNames query.rowPredicates s.condition
  having : Combined conjoinAll query.tableNames query.groupPredicates s.having

/-! ## Properties of all expressions -/

section

variable {P : Expr → Prop} (hparen : ∀ x, P x → P (.paren x))
  (hand : ∀ x y, P x → P y → P (.binary x .and y))

include hparen hand

theorem forall_mem_conjoin {clause : Option Expr} {x : Expr} (hclause : ∀ y ∈ clause, P y)
    (hx : P x) : ∀ y ∈ some (conjoin clause x), P y := by
  have hconjunct : ∀ x : Expr, P x → P x.conjunct := by
    intro x hx
    unfold Expr.conjunct
    split
    · exact hparen _ hx
    · exact hx
  rintro y ⟨⟩
  cases clause with
  | none => exact hx
  | some e => exact hand _ _ (hconjunct e (hclause e rfl)) (hconjunct x hx)

theorem forall_mem_conjoinNested {clause : Option Expr} {x : Expr} (hclause : ∀ y ∈ clause, P y)
    (hx : P x) : ∀ y ∈ conjoinNested clause x, P y := by
  have hnested : ∀ x : Expr, P x → P x.nested := by
    intro x hx
    unfold Expr.nested
    split
    · exact hparen _ hx
    · exact hparen _ hx
    · exact hx
  intro y hy
  cases clause with
  | none =>
    cases hy
    exact hx
  | some e =>
    cases hy
    exact hand _ _ (hnested e (hclause e rfl)) (hnested x hx)

end

/-- A property of all lowered predicates is one of the clause, if combining keeps it. -/
theorem forall_mem_of_combined {step : Option Expr → Expr → Option Expr} {P : Expr → Prop}
    (hstep : ∀ clause x, (∀ y ∈ clause, P y) → P x → ∀ y ∈ step clause x, P y)
    {tables : List TableName} {predicates : List Scalar} {clause : Option Expr}
    (h : Combined (fun xs => xs.foldl step none) tables predicates clause)
    (hlowered : ∀ p ∈ predicates, ∀ x, LoweredWith tables .condition p x → P x) :
    ∀ y ∈ clause, P y := by
  obtain ⟨conditions, hconditions, rfl⟩ := h
  have hall : ∀ x ∈ conditions, P x := by
    intro x hx
    obtain ⟨p, hp, hpx⟩ := exists_of_mem_forall₂ hconditions hx
    exact hlowered p hp x hpx
  refine List.foldlRecOn (motive := fun clause => ∀ y ∈ clause, P y) conditions step nofun ?_
  intro clause hclause x hx
  exact hstep clause x hclause (hall x hx)

/-- All expressions of a statement have a property that lowered expressions have, if parentheses and
conjunctions keep it. -/
theorem Composed.forall_mem_exprs {query : Query} {s : Select} (h : Composed query s)
    {P : Expr → Prop} (hstar : ∀ table, P (.star table)) (hparen : ∀ x, P x → P (.paren x))
    (hand : ∀ x y, P x → P y → P (.binary x .and y))
    (hlowered : ∀ e ∈ query.written, ∀ tables role x, tables <+: query.tableNames →
      LoweredWith tables role e x → P x) :
    ∀ x ∈ s.exprs, P x := by
  have hvalues : ∀ x ∈ valueExprs s, P x := by
    intro x hx
    obtain ⟨table, rfl⟩ | ⟨e, he, hx⟩ := h.values x hx
    · exact hstar table
    · exact hlowered e he _ _ x List.prefix_rfl hx
  have hon : ∀ j ∈ s.joins, ∀ x ∈ j.condition, P x := by
    intro j hj
    -- a join sees fewer tables than the other clauses, with the same aliases
    obtain ⟨scope, hscope, hcombined⟩ := exists_of_mem_forall₂ h.on hj
    have hstep := @forall_mem_conjoinNested P hparen hand
    refine forall_mem_of_combined (fun _ _ => hstep) hcombined fun p hp x => ?_
    exact hlowered p (Query.predicates_subset_of_mem_joinScopes hscope hp) _ _ x
      (Query.tables_isPrefix_of_mem_joinScopes hscope)
  have hstep := @forall_mem_conjoin P hparen hand
  have hcondition : ∀ x ∈ s.condition, P x :=
    forall_mem_of_combined (fun _ _ => hstep) h.condition fun p hp x =>
      hlowered p (query.rowPredicates_subset_written hp) _ _ x List.prefix_rfl
  have hhaving : ∀ x ∈ s.having, P x :=
    forall_mem_of_combined (fun _ _ => hstep) h.having fun p hp x =>
      hlowered p (query.groupPredicates_subset_written hp) _ _ x List.prefix_rfl
  simp only [valueExprs, List.forall_mem_append] at hvalues
  obtain ⟨⟨hitems, hgroups⟩, horder⟩ := hvalues
  intro x hx
  simp only [Select.exprs, List.mem_append, List.mem_flatMap, Option.mem_toList] at hx
  rcases hx with ((((hx | ⟨j, hj, hx⟩) | hx) | hx) | hx) | hx
  · exact hitems x hx
  · exact hon j hj x hx
  · exact hcondition x hx
  · exact hgroups x hx
  · exact hhaving x hx
  · exact horder x hx

variable {aliases : Aliases}

/-! ## Clauses -/

theorem forall₂_loweredWith {predicates : List Scalar} {conditions : List Expr}
    (h : (predicates.mapM (Lower.lower aliases .condition)).result = .ok conditions) :
    List.Forall₂ (LoweredWith aliases.tables .condition) predicates conditions := by
  have hitems := Lowering.forall₂_of_mapM h
  exact hitems.imp fun p x hx => ⟨aliases, rfl, hx⟩

theorem combined_of_conjunction {predicates : List Scalar} {clause : Option Expr}
    (h : (conjunction aliases predicates).result = .ok clause) :
    Combined conjoinAllNested aliases.tables predicates clause := by
  rw [conjunction_eq, Lowering.result_bind_eq_ok] at h
  obtain ⟨conditions, hconditions, h⟩ := h
  cases h
  exact ⟨conditions, forall₂_loweredWith hconditions, rfl⟩

theorem combined_of_restrictAll {predicates : List Scalar} {s t : Select}
    (h : (restrictAll aliases s predicates).result = .ok t) (hs : s.condition = none) :
    ∃ condition, t = { s with condition } ∧
      Combined conjoinAll aliases.tables predicates condition := by
  rw [restrictAll_eq hs, Lowering.result_bind_eq_ok] at h
  obtain ⟨conditions, hconditions, h⟩ := h
  cases h
  exact ⟨_, rfl, conditions, forall₂_loweredWith hconditions, rfl⟩

theorem combined_of_restrictAllGroups {predicates : List Scalar} {s t : Select}
    (h : (restrictAllGroups aliases s predicates).result = .ok t) (hs : s.having = none) :
    ∃ having, t = { s with having } ∧
      Combined conjoinAll aliases.tables predicates having := by
  rw [restrictAllGroups_eq hs, Lowering.result_bind_eq_ok] at h
  obtain ⟨conditions, hconditions, h⟩ := h
  cases h
  exact ⟨_, rfl, conditions, forall₂_loweredWith hconditions, rfl⟩

/-- A clause without predicates. -/
theorem combined_nil (combine : List Expr → Option Expr) (hcombine : combine [] = none)
    (tables : List TableName) : Combined combine tables [] none :=
  ⟨[], .nil, hcombine.symm⟩

theorem lowered_of_items {named : List Named} {items : List SelectItem}
    (h : (named.mapM (item aliases)).result = .ok items) :
    ∀ i ∈ items, ∃ e ∈ named.map (·.expr), LoweredWith aliases.tables .value e i.expr := by
  intro i hi
  obtain ⟨n, hn, h⟩ := Lowering.exists_of_mem_mapM h i hi
  unfold item at h
  rw [Lowering.result_bind_eq_ok] at h
  obtain ⟨x, hx, h⟩ := h
  cases h
  exact ⟨n.expr, List.mem_map_of_mem hn, aliases, rfl, hx⟩

theorem lowered_of_orderItems {keys : List SortKey} {orderBy : List OrderItem}
    (h : (keys.mapM (orderItem aliases)).result = .ok orderBy) :
    ∀ o ∈ orderBy, ∃ e ∈ keys.map (·.expr), LoweredWith aliases.tables .value e o.expr := by
  intro o ho
  obtain ⟨key, hkey, h⟩ := Lowering.exists_of_mem_mapM h o ho
  unfold orderItem at h
  rw [Lowering.result_bind_eq_ok] at h
  obtain ⟨x, hx, h⟩ := h
  cases h
  exact ⟨key.expr, List.mem_map_of_mem hkey, aliases, rfl, hx⟩

/-! ## Statements -/

theorem on_of_source {r : Relation} {src : Source} (h : (source r).result = .ok src) :
    List.Forall₂
      (fun scope j => Combined conjoinAllNested scope.tables scope.predicates j.condition)
      r.sourceJoins src.select.joins := by
  induction r generalizing src with
  | table t =>
    rw [source, Lowering.result_bind_eq_ok] at h
    obtain ⟨_, -, h⟩ := h
    cases h
    exact .nil
  | join left right kind predicates ihleft _ =>
    have htables := tables_of_source h
    rw [source, Lowering.result_bind_eq_ok] at h
    obtain ⟨l, hl, h⟩ := h
    split at h
    · simp only [Lowering.result_bind_eq_ok] at h
      obtain ⟨aliases, -, condition, hcondition, h⟩ := h
      cases h
      have hon := combined_of_conjunction hcondition
      rw [htables] at hon
      exact List.rel_append (ihleft hl) (.cons hon .nil)
    · cases h
  | selection source parts => cases h
  | aggregation source parts => cases h

/-- A source has no clauses but its tables and joins. -/
theorem composed_of_source {r : Relation} {src : Source} (h : (source r).result = .ok src) :
    Composed (.relation r) { src.select with items := allColumns src.aliases } := by
  have hselect := (isSource_of_source h).select
  obtain ⟨hrows, hgroups, hjoins⟩ : r.rowPredicates = [] ∧ r.groupPredicates = [] ∧
      r.joinScopes = r.sourceJoins := by
    cases r with
    | table t => exact ⟨rfl, rfl, rfl⟩
    | join left right kind predicates => exact ⟨rfl, rfl, rfl⟩
    | selection source parts => cases h
    | aggregation source parts => cases h
  have hon := on_of_source h
  rw [← hjoins] at hon
  refine {
    tables := ⟨src.aliases, tables_of_source h, (isSource_of_source h).tables⟩
    values := ?_
    on := hon
    condition := ?_
    having := ?_ }
  · intro x hx
    left
    rw [hselect] at hx
    simp only [valueExprs, List.map_nil, List.append_nil] at hx
    obtain ⟨i, hi, rfl⟩ := List.mem_map.1 hx
    obtain ⟨table, htable⟩ := allColumns_clause hi
    exact ⟨some table, htable⟩
  · rw [hselect]
    show Combined _ _ r.rowPredicates none
    rw [hrows]
    exact combined_nil _ rfl _
  · rw [hselect]
    show Combined _ _ r.groupPredicates none
    rw [hgroups]
    exact combined_nil _ rfl _

theorem composed_of_selection {r : Relation} {src : Source} {parts : Selection} {s : Select}
    (hr : (source r).result = .ok src) (h : (selection src parts).result = .ok s) :
    Composed (.relation (.selection r parts)) s := by
  have hselect := (isSource_of_source hr).select
  have htables : src.aliases.tables = r.tableNames := tables_of_source hr
  have hrefs := (isSource_of_source hr).tables
  have hon := on_of_source hr
  obtain ⟨items, t, orderBy, hitems, ht, horder, rfl⟩ := result_selection.1 h
  have hnone : src.select.condition = none := by rw [hselect]
  obtain ⟨condition, rfl, hcondition⟩ := combined_of_restrictAll ht hnone
  obtain ⟨paging, hpage⟩ := exists_page_eq { src.select with items, condition, orderBy } parts.limit
  have hlist : ∀ i ∈ items, (∃ table, i.expr = .star table) ∨
      ∃ e ∈ parts.projections.map (·.expr), LoweredWith src.aliases.tables .value e i.expr := by
    intro i hi
    split at hitems
    · cases hitems
      obtain ⟨table, htable⟩ := allColumns_clause hi
      exact .inl ⟨some table, htable⟩
    · exact .inr (lowered_of_items hitems i hi)
  have hkeys := lowered_of_orderItems horder
  rw [hpage]
  refine {
    tables := ⟨src.aliases, htables, hrefs⟩
    values := ?_
    on := hon
    condition := ?_
    having := ?_ }
  · intro x hx
    have hgroup : src.select.groupBy = [] := by rw [hselect]
    show _ ∨ ∃ e ∈ _, LoweredWith r.tableNames .value e x
    rw [← htables]
    simp only [valueExprs, hgroup, List.append_nil, List.mem_append, List.mem_map] at hx
    rcases hx with ⟨i, hi, rfl⟩ | ⟨o, ho, rfl⟩
    · refine (hlist i hi).imp_right ?_
      rintro ⟨e, he, hx⟩
      exact ⟨e, by simp [Query.written, Relation.written, he], hx⟩
    · obtain ⟨e, he, hx⟩ := hkeys o ho
      exact .inr ⟨e, by simp [Query.written, Relation.written, he], hx⟩
  · rw [htables] at hcondition
    exact hcondition
  · show Combined _ _ [] src.select.having
    rw [hselect]
    exact combined_nil _ rfl _

theorem composed_of_aggregation {r : Relation} {src : Source} {parts : Aggregation} {s : Select}
    (hr : (source r).result = .ok src) (h : (aggregation src parts).result = .ok s) :
    Composed (.relation (.aggregation r parts)) s := by
  have hselect := (isSource_of_source hr).select
  have htables : src.aliases.tables = r.tableNames := tables_of_source hr
  have hrefs := (isSource_of_source hr).tables
  have hon := on_of_source hr
  unfold aggregation at h
  simp only [Lowering.result_bind_eq_ok, Lowering.result_pure, Except.ok.injEq] at h
  obtain ⟨t, ht, keys, hkeys, metrics, hmetrics, u, hu, orderBy, horder, rfl⟩ := h
  have hnone : src.select.condition = none := by rw [hselect]
  have hhaving : src.select.having = none := by rw [hselect]
  obtain ⟨condition, rfl, hcondition⟩ := combined_of_restrictAll ht hnone
  obtain ⟨having, rfl, hgroups⟩ := combined_of_restrictAllGroups hu hhaving
  obtain ⟨paging, hpage⟩ := exists_page_eq { src.select with
    items := keys ++ metrics, condition, groupBy := keys.map (·.expr), having, orderBy } parts.limit
  have hkeyItems := lowered_of_items hkeys
  have hmetricItems := lowered_of_items hmetrics
  have horderItems := lowered_of_orderItems horder
  rw [hpage]
  refine {
    tables := ⟨src.aliases, htables, hrefs⟩
    values := ?_
    on := hon
    condition := ?_
    having := ?_ }
  · intro x hx
    right
    show ∃ e ∈ _, LoweredWith r.tableNames .value e x
    rw [← htables]
    simp only [valueExprs, List.map_append, List.mem_append, List.mem_map] at hx
    -- the keys are items, and rows are grouped by them
    have horigin : ∃ e ∈ parts.keys.map (·.expr) ++ parts.metrics.map (·.expr)
        ++ parts.sortKeys.map (·.expr), LoweredWith src.aliases.tables .value e x := by
      rcases hx with ((⟨i, hi, rfl⟩ | ⟨i, hi, rfl⟩) | ⟨i, hi, rfl⟩) | ⟨o, ho, rfl⟩
      · obtain ⟨e, he, hx⟩ := hkeyItems i hi
        exact ⟨e, by simp [he], hx⟩
      · obtain ⟨e, he, hx⟩ := hmetricItems i hi
        exact ⟨e, by simp [he], hx⟩
      · obtain ⟨e, he, hx⟩ := hkeyItems i hi
        exact ⟨e, by simp [he], hx⟩
      · obtain ⟨e, he, hx⟩ := horderItems o ho
        exact ⟨e, by simp [he], hx⟩
    obtain ⟨e, he, hx⟩ := horigin
    refine ⟨e, ?_, hx⟩
    simp only [List.mem_append] at he
    simp only [Query.written, Relation.written, List.mem_append]
    tauto
  · rw [htables] at hcondition
    exact hcondition
  · rw [htables] at hgroups
    exact hgroups

theorem composed_of_ofRelation {r : Relation} {s : Select} (h : (ofRelation r).result = .ok s) :
    Composed (.relation r) s := by
  unfold ofRelation at h
  split at h
  · rw [Lowering.result_bind_eq_ok] at h
    obtain ⟨src, hr, h⟩ := h
    exact composed_of_selection hr h
  · split at h
    · cases h
    · rw [Lowering.result_bind_eq_ok] at h
      obtain ⟨src, hr, h⟩ := h
      exact composed_of_aggregation hr h
  · rw [Lowering.result_bind_eq_ok] at h
    obtain ⟨src, hr, h⟩ := h
    cases h
    exact composed_of_source hr

theorem composed_of_ofScalar {e : Scalar} {name : Option String} {s : Select}
    (h : (ofScalar e (name.getD Query.defaultName)).result = .ok s) :
    Composed (.scalar e name) s := by
  -- whatever the table is, the statement has the lowered expression as its only item
  have hitem : ∃ aliases x, s = { items := s.items, source := s.source } ∧
      s.items.map (·.expr) = [x] ∧ (Lower.lower aliases .value e).result = .ok x ∧
      aliases.tables = e.tables ∧ s.tables = aliases.refs := by
    unfold ofScalar at h
    split at h
    · next hnone =>
      rw [Lowering.result_bind_eq_ok] at h
      obtain ⟨x, hx, h⟩ := h
      cases h
      exact ⟨.empty, x, rfl, rfl, hx, hnone.symm, rfl⟩
    · next table hone =>
      simp only [Lowering.result_bind_eq_ok, Lowering.result_ofExcept] at h
      obtain ⟨aliases, haliases, x, hx, h⟩ := h
      cases h
      refine ⟨aliases, x, rfl, rfl, hx, ?_, ?_⟩
      · rw [hone]
        exact Aliases.tables_of_register haliases
      · rw [Aliases.refs_of_register haliases]
        rfl
    · cases h
  obtain ⟨aliases, x, hs, hitems, hx, htables, hrefs⟩ := hitem
  rw [hs] at hrefs ⊢
  refine {
    tables := ⟨aliases, htables, hrefs⟩
    values := ?_
    on := .nil
    condition := combined_nil _ rfl _
    having := combined_nil _ rfl _ }
  intro y hy
  right
  simp only [valueExprs, hitems, List.map_nil, List.append_nil, List.mem_singleton] at hy
  subst hy
  exact ⟨e, by simp [Query.written], aliases, htables, hx⟩

end Statement

/-- What the clauses of a compiled statement are made of. -/
theorem composed_of_compile {query : Query} {params : Params} {c : Compiled}
    (h : compile query params = .ok c) :
    Statement.Composed (query.normalize .base) c.select := by
  obtain ⟨hs, -⟩ := compile_eq_ok.1 h
  cases hquery : query.normalize .base with
  | scalar e name =>
    rw [hquery] at hs
    exact Statement.composed_of_ofScalar hs
  | relation r =>
    rw [hquery] at hs
    exact Statement.composed_of_ofRelation hs

end TransactSql
