import Mathlib
import TransactSql.Proofs.Clauses
import TransactSql.Proofs.References

/-!
# How a statement is bound to its query

The tables of a statement get their aliases while its source is built, and the columns of all
clauses look their aliases up later. `Statement.bound_of_ofQuery` says what this comes to, for all
kinds of queries: the tables of the statement are the registered ones in order, conditions of joins
see the tables up to their own, the references of the statement resolve those of the query in the
order of writing, and the parameters among them are noted.

A clause that combines several predicates is a fold whose steps lower one predicate each. Such a
fold lowers all predicates first and combines them afterwards (`Lowering.foldlM_eq_mapM`), so each
clause is described by the traversal of a list.
-/

namespace TransactSql

open Sql (Expr Select SelectItem TableRef JoinClause OrderItem conjoin)

/-! ## References of queries -/

namespace Relation

/-- The predicates of the joins of a source, from left to right. -/
def joinPredicates : Relation → List Scalar
  | join left _ _ predicates => left.joinPredicates ++ predicates
  | _ => []

/-- The expressions of a relation in the order in which a statement has them. Keys come twice: they
are items, and rows are grouped by them. -/
def written : Relation → List Scalar
  | selection source parts =>
    parts.projections.map (·.expr) ++ source.joinPredicates ++ parts.predicates
      ++ parts.sortKeys.map (·.expr)
  | aggregation source parts =>
    parts.keys.map (·.expr) ++ parts.metrics.map (·.expr) ++ source.joinPredicates
      ++ parts.predicates ++ parts.keys.map (·.expr) ++ parts.having
      ++ parts.sortKeys.map (·.expr)
  | r => r.joinPredicates

theorem joinPredicates_mapExpressions (f : Scalar → Scalar) (r : Relation) :
    (r.mapExpressions f).joinPredicates = r.joinPredicates.map f := by
  induction r with
  | table t => rfl
  | selection source parts => rfl
  | aggregation source parts => rfl
  | join left right kind predicates ihleft _ =>
    rw [mapExpressions_join, joinPredicates, joinPredicates, ihleft, List.map_append]

theorem written_mapExpressions (f : Scalar → Scalar) (r : Relation) :
    (r.mapExpressions f).written = r.written.map f := by
  cases r with
  | table t => rfl
  | selection source parts =>
    simp [mapExpressions_selection, written, joinPredicates_mapExpressions, Function.comp_def]
  | aggregation source parts =>
    simp [mapExpressions_aggregation, written, joinPredicates_mapExpressions, Function.comp_def]
  | join left right kind predicates =>
    have h := joinPredicates_mapExpressions f (join left right kind predicates)
    rw [mapExpressions_join] at h ⊢
    exact h

end Relation

namespace Query

/-- The expressions of a query in the order in which a statement has them. -/
def written : Query → List Scalar
  | scalar e _ => [e]
  | relation r => r.written

/-- The columns and the parameters of a query, in the order of writing. -/
def references (query : Query) : List Scalar :=
  query.written.flatMap Scalar.references

theorem written_normalize (rules : RuleSet) (query : Query) :
    (query.normalize rules).written = query.written.map rules.normalize := by
  cases query with
  | scalar e name => rfl
  | relation r => exact r.written_mapExpressions _

/-- Applying the base rules changes no references. -/
theorem references_normalize (query : Query) :
    (query.normalize .base).references = query.references := by
  unfold references
  rw [written_normalize, List.flatMap_map]
  simp only [Scalar.references_normalize]

/-- Whether a query asks for all columns of its tables. -/
def selectsAll : Query → Bool
  | relation (.table _) | relation (.join ..) => true
  | relation (.selection _ parts) => parts.projections.isEmpty
  | _ => false

end Query

/-! ## Traces of lists -/

namespace Lowering

variable {α β : Type} {tables : List TableName}

/-- Going on without effects changes no trace. -/
theorem Traces.returning {l : Lowering α} {a : α} {origins : List Scalar} {targets : List Expr}
    (hl : l.Traces tables origins targets) (h : l.result = .ok a) (f : α → β) :
    (do return f (← l) : Lowering β).Traces tables origins targets := by
  refine ⟨hl.resolves, ?_⟩
  rw [noted_bind h, noted_pure, List.append_nil]
  exact hl.noted

/-- A traversal traces what it does at each item. -/
theorem traces_mapM {f : α → Lowering β} {origins : α → List Scalar} {targets : β → List Expr}
    (hf : ∀ a b, (f a).result = .ok b → (f a).Traces tables (origins a) (targets b)) {l : List α}
    {r : List β} (h : (l.mapM f).result = .ok r) :
    (l.mapM f).Traces tables (l.flatMap origins) (r.flatMap targets) := by
  have hitems := forall₂_of_mapM h
  constructor
  · rw [List.flatMap_def, List.flatMap_def]
    refine List.rel_flatten ?_
    rw [List.forall₂_map_left_iff, List.forall₂_map_right_iff]
    exact hitems.imp fun a b hab => (hf a b hab).resolves
  · intro name
    rw [noted_mapM h]
    clear h
    induction hitems with
    | nil => simp
    | cons hab _ ih =>
      rw [List.flatMap_cons, List.flatMap_cons, List.mem_append, List.mem_append, ih,
        (hf _ _ hab).noted]

end Lowering

namespace Statement

variable {aliases : Aliases}

theorem traces_item {n : Named} {i : SelectItem} (h : (item aliases n).result = .ok i) :
    (item aliases n).Traces aliases.tables n.expr.references i.expr.references := by
  unfold item at h ⊢
  rw [Lowering.result_bind_eq_ok] at h
  obtain ⟨x, hx, h⟩ := h
  cases h
  exact (Lower.traces_lower hx).returning hx _

theorem traces_orderItem {key : SortKey} {o : OrderItem}
    (h : (orderItem aliases key).result = .ok o) :
    (orderItem aliases key).Traces aliases.tables key.expr.references o.expr.references := by
  unfold orderItem at h ⊢
  rw [Lowering.result_bind_eq_ok] at h
  obtain ⟨x, hx, h⟩ := h
  cases h
  exact (Lower.traces_lower hx).returning hx _

theorem traces_items {named : List Named} {items : List SelectItem}
    (h : (named.mapM (item aliases)).result = .ok items) :
    (named.mapM (item aliases)).Traces aliases.tables (named.flatMap (·.expr.references))
      (items.flatMap (·.expr.references)) :=
  Lowering.traces_mapM (fun _ _ hn => traces_item hn) h

theorem traces_orderItems {keys : List SortKey} {orderBy : List OrderItem}
    (h : (keys.mapM (orderItem aliases)).result = .ok orderBy) :
    (keys.mapM (orderItem aliases)).Traces aliases.tables (keys.flatMap (·.expr.references))
      (orderBy.flatMap (·.expr.references)) :=
  Lowering.traces_mapM (fun _ _ hk => traces_orderItem hk) h

/-! ## Combined predicates -/

/-- The references of a clause that may be absent. -/
def clauseReferences (clause : Option Expr) : List Expr :=
  clause.toList.flatMap Expr.references

/-- Combining predicates one after the other keeps their references in order, if each step does. -/
theorem clauseReferences_foldl {step : Option Expr → Expr → Option Expr}
    (hstep : ∀ c x, clauseReferences (step c x) = clauseReferences c ++ x.references)
    (xs : List Expr) (c : Option Expr) :
    clauseReferences (xs.foldl step c) = clauseReferences c ++ xs.flatMap Expr.references := by
  induction xs generalizing c with
  | nil => simp
  | cons x xs ih => rw [List.foldl_cons, ih, hstep, List.flatMap_cons, List.append_assoc]

/-- Lowers predicates, combines them by a step that keeps references, and makes something of the
combination. -/
theorem traces_combined {α : Type} {step : Option Expr → Expr → Option Expr}
    (hstep : ∀ c x, clauseReferences (step c x) = clauseReferences c ++ x.references)
    (f : Option Expr → α) {predicates : List Scalar} {l : Lowering α} {a : α}
    (hl : l = do return f ((← predicates.mapM (Lower.lower aliases .condition)).foldl step none))
    (h : l.result = .ok a) :
    ∃ clause, a = f clause ∧ l.Traces aliases.tables (predicates.flatMap Scalar.references)
      (clauseReferences clause) := by
  subst hl
  rw [Lowering.result_bind_eq_ok] at h
  obtain ⟨xs, hxs, h⟩ := h
  cases h
  refine ⟨xs.foldl step none, rfl, ?_⟩
  rw [clauseReferences_foldl hstep]
  have htraces := Lowering.traces_mapM (fun _ _ hx => Lower.traces_lower hx) hxs
  exact htraces.returning hxs _

/-- A further predicate of a join. -/
def conjoinNested (existing : Option Expr) (condition : Expr) : Option Expr :=
  match existing with
  | some e => some (.binary e.nested .and condition.nested)
  | none => some condition

/-- The conjunction of join predicates, none where there are none. -/
def conjoinAllNested (conditions : List Expr) : Option Expr :=
  conditions.foldl conjoinNested none

/-- Join predicates are lowered first and combined afterwards. -/
theorem conjunction_eq (predicates : List Scalar) :
    conjunction aliases predicates =
      (do return conjoinAllNested (← predicates.mapM (Lower.lower aliases .condition))) := by
  unfold conjunction conjoinAllNested
  rw [← Lowering.foldlM_eq_mapM]
  congr
  funext combined p
  cases combined <;> rfl

theorem traces_conjunction {predicates : List Scalar} {combined : Option Expr}
    (h : (conjunction aliases predicates).result = .ok combined) :
    (conjunction aliases predicates).Traces aliases.tables
      (predicates.flatMap Scalar.references) (clauseReferences combined) := by
  have hstep : ∀ c x,
      clauseReferences (conjoinNested c x) = clauseReferences c ++ x.references := by
    intro c x
    cases c <;> simp [conjoinNested, clauseReferences]
  obtain ⟨clause, rfl, htraces⟩ := traces_combined hstep id (conjunction_eq predicates) h
  exact htraces

theorem clauseReferences_conjoin (c : Option Expr) (x : Expr) :
    clauseReferences (some (conjoin c x)) = clauseReferences c ++ x.references := by
  cases c <;> simp [conjoin, clauseReferences]

/-- The conjunction of predicates that a clause gets one after the other, none where there are
none. -/
def conjoinAll (conditions : List Expr) : Option Expr :=
  conditions.foldl (fun clause x => some (conjoin clause x)) none

/-- Predicates that are added one after the other are lowered first, and then they change the clause
that they go to and nothing else. -/
theorem foldlM_restrict_eq (step : Select → Expr → Select) (f : Option Expr → Select)
    (hstep : ∀ c x, step (f c) x = f (some (conjoin c x))) (predicates : List Scalar) :
    (predicates.foldlM (fun s p => do return step s (← Lower.lower aliases .condition p)) (f none)
        : Lowering Select) =
      (do return f (conjoinAll (← predicates.mapM (Lower.lower aliases .condition)))) := by
  have hfold : ∀ (xs : List Expr) (c : Option Expr),
      xs.foldl step (f c) = f (xs.foldl (fun c x => some (conjoin c x)) c) := by
    intro xs
    induction xs with
    | nil => intro c; rfl
    | cons x xs ih => intro c; rw [List.foldl_cons, hstep, ih, List.foldl_cons]
  rw [Lowering.foldlM_eq_mapM]
  simp only [hfold, conjoinAll]

theorem restrictAll_eq {s : Select} (hs : s.condition = none) (predicates : List Scalar) :
    restrictAll aliases s predicates =
      (do
        let conditions ← predicates.mapM (Lower.lower aliases .condition)
        return { s with condition := conjoinAll conditions }) := by
  have hnone : { s with condition := none } = s := by rw [← hs]
  have heq := @foldlM_restrict_eq aliases Select.restrict
    (fun condition => { s with condition }) (fun _ _ => rfl) predicates
  rwa [hnone] at heq

theorem restrictAllGroups_eq {s : Select} (hs : s.having = none) (predicates : List Scalar) :
    restrictAllGroups aliases s predicates =
      (do
        let conditions ← predicates.mapM (Lower.lower aliases .condition)
        return { s with having := conjoinAll conditions }) := by
  have hnone : { s with having := none } = s := by rw [← hs]
  have heq := @foldlM_restrict_eq aliases Select.restrictGroups
    (fun having => { s with having }) (fun _ _ => rfl) predicates
  rwa [hnone] at heq

theorem traces_restrictAll {predicates : List Scalar} {s t : Select}
    (h : (restrictAll aliases s predicates).result = .ok t) (hs : s.condition = none) :
    ∃ condition, t = { s with condition } ∧
      (restrictAll aliases s predicates).Traces aliases.tables
        (predicates.flatMap Scalar.references) (clauseReferences condition) :=
  traces_combined clauseReferences_conjoin (fun condition => { s with condition })
    (restrictAll_eq hs predicates) h

theorem traces_restrictAllGroups {predicates : List Scalar} {s t : Select}
    (h : (restrictAllGroups aliases s predicates).result = .ok t) (hs : s.having = none) :
    ∃ having, t = { s with having } ∧
      (restrictAllGroups aliases s predicates).Traces aliases.tables
        (predicates.flatMap Scalar.references) (clauseReferences having) :=
  traces_combined clauseReferences_conjoin (fun having => { s with having })
    (restrictAllGroups_eq hs predicates) h

end Statement

/-! ## Tables -/

/-- The condition of each join sees the table that the statement is from and the tables that are
joined up to that join. -/
def Sql.Select.JoinsInScope (s : Select) : Prop :=
  ∀ (i : Nat) (clause : JoinClause), s.joins[i]? = some clause →
    ∀ condition ∈ clause.condition, ∀ (qualifier : Option String) (name : String),
      Expr.column qualifier name ∈ condition.subterms →
        ∃ t ∈ s.source.toList ++ (s.joins.take (i + 1)).map (·.table), t.asName = qualifier

namespace Aliases

theorem name_injective : Function.Injective name := by
  intro i j h
  exact Nat.repr_injective ((String.append_right_inj "t").1 h)

/-- The tables under their aliases, in order. -/
def refs (a : Aliases) : List TableRef :=
  a.tables.mapIdx fun number table => Statement.tableRef table (name number)

theorem mem_refs {a : Aliases} {t : TableRef} :
    t ∈ a.refs ↔ ∃ number table, a.tables[number]? = some table ∧
      t = Statement.tableRef table (name number) := by
  unfold refs
  rw [List.mem_mapIdx]
  constructor
  · rintro ⟨number, hlt, rfl⟩
    exact ⟨number, a.tables[number], List.getElem?_eq_getElem hlt, rfl⟩
  · rintro ⟨number, table, hget, rfl⟩
    obtain ⟨hlt, rfl⟩ := List.getElem?_eq_some_iff.1 hget
    exact ⟨number, hlt, rfl⟩

theorem tables_of_register {a b : Aliases} {table : TableName} (h : a.register table = .ok b) :
    b.tables = a.tables ++ [table] := by
  unfold register at h
  split at h
  · cases h
  · cases h
    rfl

theorem refs_of_register {a b : Aliases} {table : TableName} (h : a.register table = .ok b) :
    b.refs = a.refs ++ [Statement.tableRef table a.next] := by
  unfold refs
  rw [tables_of_register h, List.mapIdx_append]
  simp [next]

theorem eq_of_tables_eq {a b : Aliases} (h : a.tables = b.tables) : a = b := by
  cases a
  cases b
  cases h
  rfl

theorem find_eq_ok {a : Aliases} {table : TableName} {tableAlias : String} :
    a.find table = .ok tableAlias ↔
      ∃ number, a.tables[number]? = some table ∧ tableAlias = name number := by
  unfold find
  constructor
  · intro h
    split at h
    · next number hnumber =>
      cases h
      obtain ⟨hlt, htable, -⟩ := List.idxOf?_eq_some_iff.1 hnumber
      exact ⟨number, by rw [List.getElem?_eq_getElem hlt, htable], rfl⟩
    · cases h
  · rintro ⟨number, hget, rfl⟩
    obtain ⟨hlt, rfl⟩ := List.getElem?_eq_some_iff.1 hget
    have hindex : a.tables.idxOf? a.tables[number] = some number := by
      rw [List.idxOf?_eq_some_iff]
      refine ⟨hlt, rfl, ?_⟩
      -- a table comes once, so it is not found before its place
      intro j hj heq
      have hsame := (List.getElem_inj a.distinct).1 heq
      omega
    rw [hindex]

theorem find_eq_error {a : Aliases} {table : TableName} {e : CompileError} :
    a.find table = .error e ↔ table ∉ a.tables ∧ e = .unknownTable table := by
  unfold find
  split
  · next number hnumber =>
    obtain ⟨hlt, rfl, -⟩ := List.idxOf?_eq_some_iff.1 hnumber
    simp
  · next hnone => simp [List.idxOf?_eq_none_iff.1 hnone, eq_comm]

theorem nodup_names (a : Aliases) : a.names.Nodup :=
  List.nodup_range.map name_injective

/-- A table is registered unless it is there already. -/
theorem register_eq_ok {a b : Aliases} {table : TableName} :
    a.register table = .ok b ↔ table ∉ a.tables ∧ b.tables = a.tables ++ [table] := by
  constructor
  · intro h
    refine ⟨?_, tables_of_register h⟩
    intro hmem
    rw [register, dif_pos hmem] at h
    cases h
  · rintro ⟨hnew, htables⟩
    rw [register, dif_neg hnew]
    exact congrArg _ (eq_of_tables_eq htables.symm)

theorem register_eq_error {a : Aliases} {table : TableName} {e : CompileError} :
    a.register table = .error e ↔
      table ∈ a.tables ∧ e = .invalidExpression (.repeatedTable table) := by
  unfold register
  split
  · next hmem => simp [hmem, eq_comm]
  · next hnew => simp [hnew]

end Aliases

/-- A further join is in scope when its own condition is. -/
theorem Sql.Select.JoinsInScope.join {s : Select} (hs : s.JoinsInScope) {clause : JoinClause}
    (h : ∀ condition ∈ clause.condition, ∀ (qualifier : Option String) (name : String),
      Expr.column qualifier name ∈ condition.subterms →
        ∃ t ∈ (s.join clause).tables, t.asName = qualifier) :
    (s.join clause).JoinsInScope := by
  intro i c hc condition hcondition qualifier name hcolumn
  show ∃ t ∈ s.source.toList ++ ((s.joins ++ [clause]).take (i + 1)).map (·.table), _
  by_cases hi : i < s.joins.length
  · -- an earlier join sees what it saw
    have hc' : s.joins[i]? = some c := by
      rw [← hc]
      exact (List.getElem?_append_left hi).symm
    rw [List.take_append_of_le_length hi]
    exact hs i c hc' condition hcondition qualifier name hcolumn
  · -- the new join comes last and sees all tables
    have hlast : i = s.joins.length ∧ c = clause := by
      have hget : (s.joins ++ [clause])[i]? = some c := hc
      rw [List.getElem?_append_right (by omega), List.getElem?_singleton] at hget
      split at hget
      · cases hget
        exact ⟨by omega, rfl⟩
      · cases hget
    obtain ⟨rfl, rfl⟩ := hlast
    have hall : (s.joins ++ [c]).take (s.joins.length + 1) = s.joins ++ [c] :=
      List.take_of_length_le (by simp)
    rw [hall]
    exact h condition hcondition qualifier name hcolumn

theorem Sql.Select.tables_join (s : Select) (clause : JoinClause) :
    (s.join clause).tables = s.tables ++ [clause.table] := by
  simp [tables, join]

/-- A reference that is resolved has the alias of a registered table. -/
theorem exists_ref_of_resolves {aliases : Aliases} {e : Scalar} {qualifier : Option String}
    {name : String} (h : Resolves aliases.tables e (.column qualifier name)) :
    ∃ t ∈ aliases.refs, t.asName = qualifier := by
  cases h with
  | column hget name type => exact ⟨_, Aliases.mem_refs.2 ⟨_, _, hget, rfl⟩, rfl⟩

namespace Statement

/-- What the source of a statement is: the registered tables and the joins between them. -/
structure IsSource (r : Relation) (src : Source) : Prop where
  select : src.select = { source := src.select.source, joins := src.select.joins }
  tables : src.select.tables = src.aliases.refs
  inScope : src.select.JoinsInScope
  traces : (source r).Traces src.aliases.tables (r.joinPredicates.flatMap Scalar.references)
    (src.select.joins.flatMap fun j => clauseReferences j.condition)

theorem isSource_of_source {r : Relation} {src : Source} (h : (source r).result = .ok src) :
    IsSource r src := by
  induction r generalizing src with
  | table t =>
    rw [source, Lowering.result_bind_eq_ok] at h
    obtain ⟨aliases, haliases, h⟩ := h
    rw [Lowering.result_ofExcept] at haliases
    cases h
    refine { select := rfl, tables := ?_, inScope := ?_, traces := ⟨.nil, ?_⟩ }
    · rw [Aliases.refs_of_register haliases]
      rfl
    · intro i clause hclause
      simp at hclause
    · intro name
      rw [source, Lowering.noted_ofExcept_bind haliases]
      simp
  | join left right kind predicates ihleft _ =>
    rw [source, Lowering.result_bind_eq_ok] at h
    obtain ⟨l, hl, h⟩ := h
    have hleft := ihleft hl
    split at h
    · next t _ =>
      simp only [Lowering.result_bind_eq_ok, Lowering.result_ofExcept] at h
      obtain ⟨aliases, haliases, condition, hcondition, h⟩ := h
      cases h
      have hon := traces_conjunction hcondition
      have htables : aliases.refs =
          (l.select.join ⟨joinType kind, tableRef t.name l.aliases.next, condition⟩).tables := by
        rw [Select.tables_join, hleft.tables, Aliases.refs_of_register haliases]
      refine {
        select := congrArg (Select.join · _) hleft.select
        tables := htables.symm
        inScope := hleft.inScope.join ?_
        traces := ⟨?_, ?_⟩ }
      · intro c hc qualifier name hcolumn
        cases hc
        obtain ⟨e, -, hresolves⟩ := hon.exists_origin (x := .column qualifier name)
          (by simpa [clauseReferences] using Expr.mem_references hcolumn rfl)
        rw [← htables]
        exact exists_ref_of_resolves hresolves
      · rw [Relation.joinPredicates, List.flatMap_append]
        show List.Forall₂ _ _ ((l.select.joins ++ [_]).flatMap _)
        rw [List.flatMap_append]
        refine List.rel_append ?_ (by simpa using hon.resolves)
        refine hleft.traces.resolves.imp fun e x hx => hx.mono ?_
        exact ⟨[t.name], (Aliases.tables_of_register haliases).symm⟩
      · intro name
        show _ ↔ _ ∈ (l.select.joins ++ [_]).flatMap _
        rw [source, Lowering.noted_bind hl, List.flatMap_append, List.mem_append, List.mem_append,
          hleft.traces.noted]
        show _ ∨ name ∈ (Lowering.ofExcept (l.aliases.register t.name) >>= _).noted ↔ _
        rw [Lowering.noted_ofExcept_bind haliases, Lowering.noted_bind hcondition]
        simp [hon.noted]
    · cases h
  | selection source parts => cases h
  | aggregation source parts => cases h

/-! ## Statements -/

theorem references_eq_append (s : Select) :
    s.references = s.items.flatMap (·.expr.references)
      ++ s.joins.flatMap (fun j => clauseReferences j.condition) ++ clauseReferences s.condition
      ++ s.groupBy.flatMap Expr.references ++ clauseReferences s.having
      ++ s.orderBy.flatMap (·.expr.references) := by
  rw [Select.references_eq_flatMap]
  simp [Select.exprs, clauseReferences, List.flatMap_assoc, List.flatMap_map]

/-- Setting limit and offset touches the paging only. -/
theorem exists_page_eq (s : Select) (limit : Option Limit) :
    ∃ paging, page s limit = { s with paging } := by
  cases limit with
  | none => exact ⟨s.paging, rfl⟩
  | some limit => exact ⟨_, rfl⟩

/-- Items that stand for all columns refer to no single one. -/
theorem allColumns_references (aliases : Aliases) :
    (allColumns aliases).flatMap (·.expr.references) = [] := by
  simp [allColumns]

/-- How a statement is bound to a query, given the tables that were registered for it. -/
structure Bound (query : Query) (aliases : Aliases) (s : Select) : Prop where
  tables : s.tables = aliases.refs
  inScope : s.JoinsInScope
  traces : (ofQuery query).Traces aliases.tables query.references s.references
  allColumns : query.selectsAll → s.items = allColumns aliases

/-- The items of a selection, which are all columns where there are no projections. -/
def selectionItems (aliases : Aliases) (parts : Selection) : Lowering (List SelectItem) :=
  if parts.projections.isEmpty then pure (allColumns aliases)
  else parts.projections.mapM (item aliases)

theorem selection_eq (src : Source) (parts : Selection) :
    selection src parts = (do
      let items ← selectionItems src.aliases parts
      let select ← restrictAll src.aliases { src.select with items } parts.predicates
      let orderBy ← parts.sortKeys.mapM (orderItem src.aliases)
      return page { select with orderBy } parts.limit) := by
  unfold selection selectionItems
  split <;> rfl

theorem traces_selectionItems {parts : Selection} {items : List SelectItem}
    (h : (selectionItems aliases parts).result = .ok items) :
    (selectionItems aliases parts).Traces aliases.tables
      (parts.projections.flatMap (·.expr.references)) (items.flatMap (·.expr.references)) := by
  unfold selectionItems at h ⊢
  split at h
  · next hempty =>
    cases h
    rw [if_pos hempty, List.isEmpty_iff.1 hempty, allColumns_references]
    exact ⟨.nil, by simp⟩
  · next hempty =>
    rw [if_neg hempty]
    exact traces_items h

theorem bound_of_selection {r : Relation} {src : Source} {parts : Selection} {s : Select}
    (hr : (source r).result = .ok src) (h : (selection src parts).result = .ok s) :
    Bound (.relation (.selection r parts)) src.aliases s := by
  have hsrc := isSource_of_source hr
  rw [selection_eq] at h
  simp only [Lowering.result_bind_eq_ok, Lowering.result_pure, Except.ok.injEq] at h
  obtain ⟨items, hitems, t, ht, orderBy, horder, rfl⟩ := h
  have hcondition : src.select.condition = none := by rw [hsrc.select]
  obtain ⟨condition, rfl, hrows⟩ := traces_restrictAll ht hcondition
  have hlist := traces_selectionItems hitems
  have hkeys := traces_orderItems horder
  obtain ⟨paging, hpage⟩ := exists_page_eq { src.select with items, condition, orderBy } parts.limit
  have hreferences : Select.references { src.select with items, condition, orderBy, paging } =
      items.flatMap (·.expr.references)
        ++ src.select.joins.flatMap (fun j => clauseReferences j.condition)
        ++ clauseReferences condition ++ orderBy.flatMap (·.expr.references) := by
    rw [references_eq_append, hsrc.select]
    simp [clauseReferences]
  rw [hpage]
  refine { tables := hsrc.tables, inScope := hsrc.inScope, traces := ⟨?_, ?_⟩, allColumns := ?_ }
  · rw [hreferences]
    simp only [Query.references, Query.written, Relation.written, List.flatMap_append,
      List.flatMap_map]
    exact List.rel_append (List.rel_append (List.rel_append hlist.resolves hsrc.traces.resolves)
      hrows.resolves) hkeys.resolves
  · -- the notes are in the order of lowering, which is not that of writing
    intro name
    show name ∈ (source r >>= fun src => selection src parts).noted ↔ _
    rw [hreferences, Lowering.noted_bind hr, selection_eq, Lowering.noted_bind hitems,
      Lowering.noted_bind ht, Lowering.noted_bind horder]
    simp only [List.mem_append, hsrc.traces.noted, hlist.noted, hrows.noted, hkeys.noted,
      Lowering.noted_pure, List.not_mem_nil, or_false]
    tauto
  · intro hall
    have hempty : parts.projections.isEmpty := hall
    unfold selectionItems at hitems
    rw [if_pos hempty] at hitems
    cases hitems
    rfl

theorem bound_of_aggregation {r : Relation} {src : Source} {parts : Aggregation} {s : Select}
    (hparts : (parts.keys.isEmpty && parts.metrics.isEmpty) = false)
    (hr : (source r).result = .ok src) (h : (aggregation src parts).result = .ok s) :
    Bound (.relation (.aggregation r parts)) src.aliases s := by
  have hsrc := isSource_of_source hr
  unfold aggregation at h
  simp only [Lowering.result_bind_eq_ok, Lowering.result_pure, Except.ok.injEq] at h
  obtain ⟨t, ht, keys, hkeys, metrics, hmetrics, u, hu, orderBy, horder, rfl⟩ := h
  have hcondition : src.select.condition = none := by rw [hsrc.select]
  have hhaving : src.select.having = none := by rw [hsrc.select]
  obtain ⟨condition, rfl, hrows⟩ := traces_restrictAll ht hcondition
  obtain ⟨having, rfl, hgroups⟩ := traces_restrictAllGroups hu hhaving
  have hkeyItems := traces_items hkeys
  have hmetricItems := traces_items hmetrics
  have horderItems := traces_orderItems horder
  obtain ⟨paging, hpage⟩ := exists_page_eq { src.select with
    items := keys ++ metrics, condition, groupBy := keys.map (·.expr), having, orderBy } parts.limit
  have hreferences : Select.references { src.select with
        items := keys ++ metrics, condition, groupBy := keys.map (·.expr), having, orderBy,
        paging } =
      keys.flatMap (·.expr.references) ++ metrics.flatMap (·.expr.references)
        ++ src.select.joins.flatMap (fun j => clauseReferences j.condition)
        ++ clauseReferences condition ++ keys.flatMap (·.expr.references)
        ++ clauseReferences having ++ orderBy.flatMap (·.expr.references) := by
    rw [references_eq_append]
    simp [List.flatMap_map]
  rw [hpage]
  refine { tables := hsrc.tables, inScope := hsrc.inScope, traces := ⟨?_, ?_⟩, allColumns := ?_ }
  · rw [hreferences]
    simp only [Query.references, Query.written, Relation.written, List.flatMap_append,
      List.flatMap_map]
    exact List.rel_append (List.rel_append (List.rel_append (List.rel_append (List.rel_append
      (List.rel_append hkeyItems.resolves hmetricItems.resolves) hsrc.traces.resolves)
      hrows.resolves) hkeyItems.resolves) hgroups.resolves) horderItems.resolves
  · -- the keys are lowered once and written twice
    intro name
    have heq : ofQuery (.relation (.aggregation r parts)) =
        source r >>= fun src => aggregation src parts := by
      show ite _ _ _ = _
      rw [hparts]
      rfl
    rw [heq, hreferences, Lowering.noted_bind hr]
    unfold aggregation
    rw [Lowering.noted_bind ht, Lowering.noted_bind hkeys, Lowering.noted_bind hmetrics,
      Lowering.noted_bind hu, Lowering.noted_bind horder]
    simp only [List.mem_append, hsrc.traces.noted, hkeyItems.noted, hmetricItems.noted,
      hrows.noted, hgroups.noted, horderItems.noted, Lowering.noted_pure, List.not_mem_nil,
      or_false]
    tauto
  · intro hall
    cases hall

theorem bound_of_source {r : Relation} {src : Source} (hr : (source r).result = .ok src) :
    Bound (.relation r) src.aliases { src.select with items := allColumns src.aliases } := by
  have hsrc := isSource_of_source hr
  have hshape : ofQuery (.relation r) =
      (do let s ← source r; return { s.select with items := allColumns s.aliases }) ∧
      r.written = r.joinPredicates := by
    cases r with
    | table t => exact ⟨rfl, rfl⟩
    | join left right kind predicates => exact ⟨rfl, rfl⟩
    | selection source parts => cases hr
    | aggregation source parts => cases hr
  have hreferences : Select.references { src.select with items := allColumns src.aliases } =
      src.select.joins.flatMap fun j => clauseReferences j.condition := by
    rw [references_eq_append, hsrc.select]
    simp [allColumns_references, clauseReferences]
  refine {
    tables := hsrc.tables
    inScope := hsrc.inScope
    traces := ?_
    allColumns := fun _ => rfl }
  rw [hshape.1, hreferences, Query.references, Query.written, hshape.2]
  exact hsrc.traces.returning hr _

theorem bound_of_ofRelation {r : Relation} {s : Select} (h : (ofRelation r).result = .ok s) :
    ∃ aliases, Bound (.relation r) aliases s := by
  unfold ofRelation at h
  split at h
  · rw [Lowering.result_bind_eq_ok] at h
    obtain ⟨src, hr, h⟩ := h
    exact ⟨src.aliases, bound_of_selection hr h⟩
  · split at h
    · cases h
    · next hparts =>
      rw [Lowering.result_bind_eq_ok] at h
      obtain ⟨src, hr, h⟩ := h
      exact ⟨src.aliases, bound_of_aggregation (Bool.eq_false_iff.2 hparts) hr h⟩
  · rw [Lowering.result_bind_eq_ok] at h
    obtain ⟨src, hr, h⟩ := h
    cases h
    exact ⟨src.aliases, bound_of_source hr⟩

/-- A scalar is bound when the tables of its statement are those under whose aliases it is
lowered. -/
theorem bound_of_lower {aliases : Aliases} {e : Scalar} {name : Option String} {x : Expr}
    {s : Select} (hx : (Lower.lower aliases .value e).result = .ok x)
    (hs : s = { items := s.items, source := s.source }) (hitems : s.items.map (·.expr) = [x])
    (htables : s.tables = aliases.refs)
    (hnoted : (ofQuery (.scalar e name)).noted = (Lower.lower aliases .value e).noted) :
    Bound (.scalar e name) aliases s := by
  have htraces := Lower.traces_lower hx
  have hreferences : s.references = x.references := by
    rw [Select.references_eq_flatMap, Select.exprs, hitems, hs]
    simp
  refine {
    tables := htables
    inScope := ?_
    traces := ⟨?_, ?_⟩
    allColumns := fun h => by cases h }
  · intro i clause hclause
    rw [hs] at hclause
    simp at hclause
  · rw [hreferences]
    simpa [Query.references, Query.written] using htraces.resolves
  · intro n
    rw [hnoted, hreferences]
    exact htraces.noted n

theorem bound_of_ofScalar {e : Scalar} {name : Option String} {s : Select}
    (h : (ofScalar e (name.getD Query.defaultName)).result = .ok s) :
    ∃ aliases, Bound (.scalar e name) aliases s := by
  have heq : ofQuery (.scalar e name) = ofScalar e (name.getD Query.defaultName) := rfl
  unfold ofScalar at h heq
  split at h
  · next hnone =>
    rw [Lowering.result_bind_eq_ok] at h
    obtain ⟨x, hx, h⟩ := h
    cases h
    refine ⟨.empty, bound_of_lower hx rfl rfl rfl ?_⟩
    rw [heq, hnone]
    show (Lower.lower .empty .value e >>= fun _ => pure _).noted = _
    rw [Lowering.noted_bind hx, Lowering.noted_pure, List.append_nil]
  · next table hone =>
    simp only [Lowering.result_bind_eq_ok, Lowering.result_ofExcept] at h
    obtain ⟨aliases, haliases, x, hx, h⟩ := h
    cases h
    refine ⟨aliases, bound_of_lower hx rfl rfl ?_ ?_⟩
    · rw [Aliases.refs_of_register haliases]
      rfl
    · rw [heq, hone]
      show (Lowering.ofExcept _ >>= fun _ => Lower.lower _ .value e >>= fun _ => pure _).noted = _
      rw [Lowering.noted_ofExcept_bind haliases, Lowering.noted_bind hx, Lowering.noted_pure,
        List.append_nil]
  · cases h

/-- A statement is bound to its query. -/
theorem bound_of_ofQuery {query : Query} {s : Select} (h : (ofQuery query).result = .ok s) :
    ∃ aliases, Bound query aliases s := by
  cases query with
  | scalar e name => exact bound_of_ofScalar h
  | relation r => exact bound_of_ofRelation h

end Statement

/-- What compiling amounts to: a statement that is bound to the query after the rules, and the
table of the parameters that were noted. -/
theorem bound_of_compile {query : Query} {params : Params} {c : Compiled}
    (h : compile query params = .ok c) :
    ∃ aliases, Statement.Bound (query.normalize .base) aliases c.select ∧
      c.params =
        recordParams params .empty (Statement.ofQuery (query.normalize .base)).noted := by
  obtain ⟨hs, hparams⟩ := compile_eq_ok.1 h
  obtain ⟨aliases, hbound⟩ := Statement.bound_of_ofQuery hs
  exact ⟨aliases, hbound, hparams⟩

end TransactSql
