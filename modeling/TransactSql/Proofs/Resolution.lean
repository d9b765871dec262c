import Mathlib
import TransactSql.Proofs.Binding

/-!
# Columns belong to their tables

A column of a compiled statement says which table it is of by an alias. `resolved_of_compile` says
that this is the right table: the aliases tell the tables of the statement apart, and each column
has the alias of the table that the query names in its place.
-/

namespace TransactSql

open Sql (Expr Select SelectItem TableRef)

/-- A reference of a statement stands for a reference of a query. A column has the alias of one
table only, and this is the table that the query gives; a parameter is as it was. -/
inductive StandsFor (tables : List TableRef) : Scalar → Expr → Prop
  | column {t : TableRef} (mem : t ∈ tables)
      (unique : ∀ u ∈ tables, u.asName = t.asName → u = t) (name : String)
      (type : Option LogicalType) :
      StandsFor tables (.column ⟨t.schema, t.table⟩ name type) (.column t.asName name)
  | param (name : String) (type : LogicalType) : StandsFor tables (.param name type) (.param name)

/-- What the references of a statement say, given the query that it is for. -/
structure Sql.Select.Resolved (s : Select) (query : Query) : Prop where
  /-- Aliases are numbered from left to right. -/
  aliases : s.tables.map (·.asName) =
    (List.range s.tables.length).map fun number => some ("t" ++ toString number)
  aliasesDistinct : (s.tables.map (·.asName)).Nodup
  tablesDistinct : (s.tables.map fun t => (t.schema, t.table)).Nodup
  /-- The columns and parameters of the statement are those of the query, one by one. -/
  references : List.Forall₂ (StandsFor s.tables) query.references s.references
  joinsInScope : s.JoinsInScope
  allColumns : query.selectsAll →
    s.items = s.tables.map fun t => { expr := .star t.asName, asName := none }

/-! ## Aliases -/

namespace Aliases

theorem length_refs (a : Aliases) : a.refs.length = a.tables.length := by
  simp [refs]

/-- The aliases are numbered in the order of the tables. -/
theorem map_asName_refs (a : Aliases) :
    a.refs.map (·.asName) = (List.range a.tables.length).map fun number => some (name number) := by
  refine List.ext_getElem (by simp [refs]) ?_
  intro i _ _
  simp [refs, Statement.tableRef]

theorem nodup_asName_refs (a : Aliases) : (a.refs.map (·.asName)).Nodup := by
  rw [map_asName_refs]
  refine List.nodup_range.map ?_
  intro i j h
  exact name_injective (Option.some_injective _ h)

theorem nodup_tables_refs (a : Aliases) :
    (a.refs.map fun t => (t.schema, t.table)).Nodup := by
  have hrefs : a.refs.map (fun t => (t.schema, t.table)) =
      a.tables.map fun t => (t.schema, t.name) := by
    refine List.ext_getElem (by simp [refs]) ?_
    intro i _ _
    simp [refs, Statement.tableRef]
  rw [hrefs]
  refine a.distinct.map ?_
  rintro ⟨schema, name⟩ ⟨schema', name'⟩ h
  cases h
  rfl

end Aliases

/-- A reference that is resolved stands for what it resolves. -/
theorem Resolves.standsFor {aliases : Aliases} {e : Scalar} {x : Expr}
    (h : Resolves aliases.tables e x) : StandsFor aliases.refs e x := by
  cases h with
  | column hget name type =>
    refine .column (t := Statement.tableRef _ _) (Aliases.mem_refs.2 ⟨_, _, hget, rfl⟩) ?_ name type
    intro u hu hname
    exact List.inj_on_of_nodup_map aliases.nodup_asName_refs hu
      (Aliases.mem_refs.2 ⟨_, _, hget, rfl⟩) hname
  | param _ type => exact .param _ type

theorem Statement.allColumns_eq_map_refs (aliases : Aliases) :
    allColumns aliases = aliases.refs.map fun t => { expr := .star t.asName, asName := none } := by
  have hnames := congrArg (List.map fun n => ({ expr := .star n, asName := none } : SelectItem))
    aliases.map_asName_refs
  rw [List.map_map, List.map_map] at hnames
  rw [allColumns, Aliases.names, List.map_map]
  exact hnames.symm

/-- Applying rules adds and removes no projections. -/
theorem Query.selectsAll_normalize (rules : RuleSet) (query : Query) :
    (query.normalize rules).selectsAll = query.selectsAll := by
  cases query with
  | scalar e name => rfl
  | relation r =>
    cases r with
    | table t => rfl
    | join left right kind predicates => rfl
    | aggregation source parts => rfl
    | selection source parts =>
      show (Query.relation (rules.normalizeRelation _)).selectsAll = _
      rw [RuleSet.normalizeRelation, Relation.mapExpressions_selection]
      exact List.isEmpty_map

/-- In a compiled statement every column refers to the table that the query names for it. The tables
have the aliases `t0`, `t1` and so on from left to right and come once each; the columns and
parameters at all places are those of the query, in order, under these aliases; conditions of joins
refer to tables up to their own; and where a query asks for all columns, the items are `alias.*` for
each table in order. -/
theorem resolved_of_compile (query : Query) (params : Params) (c : Compiled)
    (h : compile query params = .ok c) : c.select.Resolved query := by
  obtain ⟨aliases, hbound, -⟩ := bound_of_compile h
  have hreferences := hbound.traces.resolves
  rw [Query.references_normalize] at hreferences
  refine {
    aliases := ?_
    aliasesDistinct := ?_
    tablesDistinct := ?_
    references := ?_
    joinsInScope := hbound.inScope
    allColumns := ?_ }
  · rw [hbound.tables, Aliases.length_refs]
    exact aliases.map_asName_refs
  · rw [hbound.tables]
    exact aliases.nodup_asName_refs
  · rw [hbound.tables]
    exact aliases.nodup_tables_refs
  · rw [hbound.tables]
    exact hreferences.imp fun _ _ hx => hx.standsFor
  · intro hall
    rw [hbound.tables, ← Statement.allColumns_eq_map_refs]
    refine hbound.allColumns ?_
    rwa [Query.selectsAll_normalize]

/-- Two tables of one name in different schemas are told apart, also in a condition that refers to
the second of them first. -/
theorem resolved_of_compile_same_name :
    let here : Scalar := .column ⟨none, "t"⟩ "id" (some .int64)
    let there : Scalar := .column ⟨some "s", "t"⟩ "id" (some .int64)
    let query : Query := .relation (.selection
      (.join (.table ⟨⟨none, "t"⟩, [("id", .int64)]⟩) (.table ⟨⟨some "s", "t"⟩, [("id", .int64)]⟩)
        .inner [.apply .equals [there, here]])
      { projections := [⟨"id", there⟩], predicates := [.apply .notNull [here]] })
    ∃ c, compile query .empty = .ok c ∧ c.select.Resolved query ∧
      c.select.references =
        [.column (some "t1") "id", .column (some "t1") "id", .column (some "t0") "id",
          .column (some "t0") "id"] := by
  intro here there query
  have hc : ∃ c, compile query .empty = .ok c ∧ c.select.references =
      [.column (some "t1") "id", .column (some "t1") "id", .column (some "t0") "id",
        .column (some "t0") "id"] := ⟨_, rfl, rfl⟩
  obtain ⟨c, hc, hreferences⟩ := hc
  exact ⟨c, hc, resolved_of_compile query .empty c hc, hreferences⟩

end TransactSql
