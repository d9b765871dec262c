import TransactSql.Proofs.Lowered
import TransactSql.Proofs.Threading

/-!
# The clauses of compiled statements

A statement is put together of lowered expressions: items, keys and sort keys are lowered as
values, and the conditions of joins, rows and groups are conjunctions of lowered conditions. So a
property that lowering gives to each role, and that a conjunction of conditions keeps, holds of
every clause of a compiled statement (`clauses_of_compile`).

Conjunctions are formed in two ways: a clause that grows puts parentheses around disjunctions
only, the predicates of a join are put into parentheses as operands are.
-/

namespace TransactSql

open Sql (Expr Select SelectItem TableRef JoinClause OrderItem conjoin)

/-- Every value and every condition of a statement has a property of its role; items that stand
for all columns of a table are left out. -/
structure Sql.Select.Clauses (P : Role → Expr → Prop) (s : Select) : Prop where
  items : ∀ item ∈ s.items, (∃ table, item.expr = .star (some table)) ∨ P .value item.expr
  on : ∀ clause ∈ s.joins, ∀ c ∈ clause.condition, P .condition c
  condition : ∀ c ∈ s.condition, P .condition c
  groupBy : ∀ e ∈ s.groupBy, P .value e
  having : ∀ c ∈ s.having, P .condition c
  orderBy : ∀ o ∈ s.orderBy, P .value o.expr

/-- A property of roles that lowering gives and conjunctions keep. -/
structure ClauseProperty (P : Role → Expr → Prop) : Prop where
  lowered : ∀ {role x}, Lowered role x → P role x
  conjoined : ∀ {x y}, P .condition x → P .condition y →
    P .condition (.binary x.conjunct .and y.conjunct)
  nested : ∀ {x y}, P .condition x → P .condition y →
    P .condition (.binary x.nested .and y.nested)

namespace ClauseProperty

variable {P : Role → Expr → Prop}

theorem lower (hP : ClauseProperty P) {aliases : Aliases} {role : Role} {e : Scalar} {x : Expr}
    (h : (Lower.lower aliases role e).result = .ok x) : P role x :=
  hP.lowered (Lower.lowered_of_lower h)

theorem conjoin (hP : ClauseProperty P) {existing : Option Expr} {c : Expr}
    (he : ∀ e ∈ existing, P .condition e) (hc : P .condition c) :
    P .condition (conjoin existing c) := by
  cases existing with
  | none => exact hc
  | some e => exact hP.conjoined (he e rfl) hc

end ClauseProperty

namespace Statement

variable {P : Role → Expr → Prop} {aliases : Aliases}

/-! ## Parts of a statement -/

theorem conjunction_clause (hP : ClauseProperty P) {predicates : List Scalar}
    {combined : Option Expr} (h : (conjunction aliases predicates).result = .ok combined) :
    ∀ c ∈ combined, P .condition c := by
  refine Lowering.foldlM_invariant (P := fun combined => ∀ c ∈ combined, P .condition c)
    ?_ (by simp) h
  intro p _ existing combined hexisting hstep
  rw [Lowering.result_bind_eq_ok] at hstep
  obtain ⟨condition, hcondition, hstep⟩ := hstep
  have hc := hP.lower hcondition
  split at hstep
  · next e =>
    cases hstep
    intro c hmem
    cases hmem
    exact hP.nested (hexisting e rfl) hc
  · cases hstep
    intro c hmem
    cases hmem
    exact hc

theorem item_clause (hP : ClauseProperty P) {n : Named} {item : SelectItem}
    (h : (Statement.item aliases n).result = .ok item) : P .value item.expr := by
  unfold Statement.item at h
  rw [Lowering.result_bind_eq_ok] at h
  obtain ⟨e, he, h⟩ := h
  cases h
  exact hP.lower he

theorem orderItem_clause (hP : ClauseProperty P) {key : SortKey} {o : OrderItem}
    (h : (orderItem aliases key).result = .ok o) : P .value o.expr := by
  unfold orderItem at h
  rw [Lowering.result_bind_eq_ok] at h
  obtain ⟨e, he, h⟩ := h
  cases h
  exact hP.lower he

/-- The sort keys of a statement, each lowered as a value. -/
theorem orderBy_clause (hP : ClauseProperty P) {keys : List SortKey} {orderBy : List OrderItem}
    (h : (keys.mapM (orderItem aliases)).result = .ok orderBy) :
    ∀ o ∈ orderBy, P .value o.expr := by
  intro o ho
  obtain ⟨key, -, hkey⟩ := Lowering.exists_of_mem_mapM h o ho
  exact orderItem_clause hP hkey

/-- The named items of a statement, each lowered as a value. -/
theorem items_clause (hP : ClauseProperty P) {named : List Named} {items : List SelectItem}
    (h : (named.mapM (Statement.item aliases)).result = .ok items) :
    ∀ item ∈ items, P .value item.expr := by
  intro item hitem
  obtain ⟨n, -, hn⟩ := Lowering.exists_of_mem_mapM h item hitem
  exact item_clause hP hn

theorem restrictAll_clauses (hP : ClauseProperty P) {predicates : List Scalar}
    {s t : Select} (hs : s.Clauses P)
    (h : (restrictAll aliases s predicates).result = .ok t) : t.Clauses P := by
  refine Lowering.foldlM_invariant (P := Select.Clauses P) ?_ hs h
  intro p _ s t hs hstep
  rw [Lowering.result_bind_eq_ok] at hstep
  obtain ⟨c, hc, hstep⟩ := hstep
  cases hstep
  refine { hs with condition := ?_ }
  intro c' hc'
  cases hc'
  exact hP.conjoin hs.condition (hP.lower hc)

theorem restrictAllGroups_clauses (hP : ClauseProperty P) {predicates : List Scalar}
    {s t : Select} (hs : s.Clauses P)
    (h : (restrictAllGroups aliases s predicates).result = .ok t) : t.Clauses P := by
  refine Lowering.foldlM_invariant (P := Select.Clauses P) ?_ hs h
  intro p _ s t hs hstep
  rw [Lowering.result_bind_eq_ok] at hstep
  obtain ⟨c, hc, hstep⟩ := hstep
  cases hstep
  refine { hs with having := ?_ }
  intro c' hc'
  cases hc'
  exact hP.conjoin hs.having (hP.lower hc)

theorem allColumns_clause {item : SelectItem} (h : item ∈ allColumns aliases) :
    ∃ table, item.expr = .star (some table) := by
  obtain ⟨name, -, rfl⟩ := List.mem_map.1 h
  exact ⟨name, rfl⟩

/-- Setting limit and offset touches no expression. -/
theorem page_clauses {s : Select} (hs : s.Clauses P) (limit : Option Limit) :
    (page s limit).Clauses P := by
  cases limit with
  | none => exact hs
  | some limit => exact { hs with }

/-! ## Whole statements -/

/-- The source of a statement has tables and joins only, and the joins have conditions. -/
theorem source_clauses (hP : ClauseProperty P) {r : Relation} {src : Source}
    (h : (source r).result = .ok src) : src.select.Clauses P := by
  induction r generalizing src with
  | table t =>
    rw [source, Lowering.result_bind_eq_ok] at h
    obtain ⟨_, -, h⟩ := h
    cases h
    constructor <;> simp
  | join left right kind predicates ihleft _ =>
    -- the joins of the left side come first, and the right side is a single table
    rw [source, Lowering.result_bind_eq_ok] at h
    obtain ⟨l, hl, h⟩ := h
    have hleft := ihleft hl
    split at h
    · simp only [Lowering.result_bind_eq_ok] at h
      obtain ⟨_, -, condition, hcondition, h⟩ := h
      cases h
      refine { hleft with on := ?_ }
      intro clause hclause
      rcases List.mem_append.1 hclause with hclause | hclause
      · exact hleft.on clause hclause
      · rw [List.mem_singleton.1 hclause]
        exact conjunction_clause hP hcondition
    · cases h
  | selection source parts => cases h
  | aggregation source parts => cases h

/-- The parts of a selection's statement: the items, all columns where there are no projections,
then the conditions on rows, the order and the page. -/
theorem result_selection {src : Source} {parts : Selection} {s : Select} :
    (selection src parts).result = .ok s ↔
      ∃ items t orderBy,
        (if parts.projections.isEmpty then pure (allColumns src.aliases)
          else parts.projections.mapM (item src.aliases)).result = .ok items ∧
        (restrictAll src.aliases { src.select with items } parts.predicates).result = .ok t ∧
        (parts.sortKeys.mapM (orderItem src.aliases)).result = .ok orderBy ∧
        s = page { t with orderBy } parts.limit := by
  unfold selection
  split <;>
  · simp only [Lowering.result_bind_eq_ok, Lowering.result_pure, Except.ok.injEq]
    constructor
    · rintro ⟨items, hitems, t, ht, orderBy, horder, rfl⟩
      exact ⟨items, t, orderBy, hitems, ht, horder, rfl⟩
    · rintro ⟨items, t, orderBy, hitems, ht, horder, rfl⟩
      exact ⟨items, hitems, t, ht, orderBy, horder, rfl⟩

theorem selection_clauses (hP : ClauseProperty P) {src : Source} {parts : Selection}
    {s : Select} (hsrc : src.select.Clauses P) (h : (selection src parts).result = .ok s) :
    s.Clauses P := by
  obtain ⟨items, t, orderBy, hitems, ht, horder, rfl⟩ := result_selection.1 h
  have hlist : ∀ item ∈ items,
      (∃ table, item.expr = .star (some table)) ∨ P .value item.expr := by
    intro item hitem
    split at hitems
    · cases hitems
      exact .inl (allColumns_clause hitem)
    · exact .inr (items_clause hP hitems item hitem)
  have hlisted : Select.Clauses P { src.select with items } := { hsrc with items := hlist }
  have hrestricted := restrictAll_clauses hP hlisted ht
  refine page_clauses ?_ parts.limit
  exact { hrestricted with orderBy := orderBy_clause hP horder }

theorem aggregation_clauses (hP : ClauseProperty P) {src : Source} {parts : Aggregation}
    {s : Select} (hsrc : src.select.Clauses P) (h : (aggregation src parts).result = .ok s) :
    s.Clauses P := by
  unfold aggregation at h
  simp only [Lowering.result_bind_eq_ok] at h
  obtain ⟨t, ht, keys, hkeys, metrics, hmetrics, u, hu, orderBy, horder, h⟩ := h
  cases h
  have hrestricted := restrictAll_clauses hP hsrc ht
  have hk := items_clause hP hkeys
  have hm := items_clause hP hmetrics
  have hgrouped : Select.Clauses P
      { t with items := keys ++ metrics, groupBy := keys.map (·.expr) } := by
    refine { hrestricted with items := ?_, groupBy := ?_ }
    · intro item hitem
      rcases List.mem_append.1 hitem with hitem | hitem
      · exact .inr (hk item hitem)
      · exact .inr (hm item hitem)
    · intro e he
      obtain ⟨item, hitem, rfl⟩ := List.mem_map.1 he
      exact hk item hitem
  have hgroups := restrictAllGroups_clauses hP hgrouped hu
  refine page_clauses ?_ parts.limit
  exact { hgroups with orderBy := orderBy_clause hP horder }

theorem ofRelation_clauses (hP : ClauseProperty P) {r : Relation} {s : Select}
    (h : (ofRelation r).result = .ok s) : s.Clauses P := by
  unfold ofRelation at h
  split at h
  · rw [Lowering.result_bind_eq_ok] at h
    obtain ⟨src, hsrc, h⟩ := h
    exact selection_clauses hP (source_clauses hP hsrc) h
  · split at h
    · cases h
    · rw [Lowering.result_bind_eq_ok] at h
      obtain ⟨src, hsrc, h⟩ := h
      exact aggregation_clauses hP (source_clauses hP hsrc) h
  · rw [Lowering.result_bind_eq_ok] at h
    obtain ⟨src, hsrc, h⟩ := h
    cases h
    refine { source_clauses hP hsrc with items := ?_ }
    exact fun item hitem => .inl (allColumns_clause hitem)

theorem ofScalar_clauses (hP : ClauseProperty P) {e : Scalar} {name : String} {s : Select}
    (h : (ofScalar e name).result = .ok s) : s.Clauses P := by
  unfold ofScalar at h
  split at h
  · rw [Lowering.result_bind_eq_ok] at h
    obtain ⟨x, hx, h⟩ := h
    cases h
    constructor <;> simp [hP.lower hx]
  · simp only [Lowering.result_bind_eq_ok] at h
    obtain ⟨_, -, x, hx, h⟩ := h
    cases h
    constructor <;> simp [hP.lower hx]
  · cases h

end Statement

/-- Every clause of a compiled statement has a property that lowering gives to each role and that
conjunctions keep. -/
theorem clauses_of_compile {P : Role → Expr → Prop} (hP : ClauseProperty P) {query : Query}
    {params : Params} {c : Compiled} (h : compile query params = .ok c) : c.select.Clauses P := by
  obtain ⟨hs, -⟩ := compile_eq_ok.1 h
  unfold Statement.ofQuery at hs
  split at hs
  · exact Statement.ofScalar_clauses hP hs
  · exact Statement.ofRelation_clauses hP hs

end TransactSql
