import Mathlib.Data.List.Induction
import Mathlib.Data.List.Lex
import TransactSql.Proofs.Normalization
import TransactSql.Proofs.Refusals
import TransactSql.Proofs.Threading

/-!
# The tables of an expression

The order in which `Scalar.tables` lists tables can be said without following the function. What
stands in an expression stands at a place: at each node the place says which child to go to, where
the filter comes after the operands. Places are ordered as words are, and tables are listed in the
order of the first places at which a column of theirs stands (`exists_firsts_tables`).

The base rules copy the tested operand of a range and put operands under new nodes, so that columns
change their places. But which tables are met for the first time, and in which order, stays the
same as long as no filter is dropped (`RedexesUnfiltered.sameWalk`). What is said about the tables
of a scalar that is compiled is therefore true of the scalar as it was written:
`tables_at_first_columns`.
-/

namespace TransactSql

namespace Scalar

/-! ## Places -/

/-- What stands at a place of an expression. A place says which child to go to at each node, where
the filter comes after the operands. -/
def at? : List Nat → Scalar → Option Scalar
  | [], e => some e
  | i :: place, e => e.children[i]?.bind (at? place)

/-- A column of a table stands at a place. -/
def RefersAt (e : Scalar) (place : List Nat) (table : TableName) : Prop :=
  ∃ name type, at? place e = some (.column table name type)

/-- The first of the places that refer to a table. Places are ordered as words are, so that one
child with all that is below it comes before the next. -/
structure First (refers : List Nat → TableName → Prop) (place : List Nat) (table : TableName) :
    Prop where
  stands : refers place table
  least : ∀ other, refers other table → place ≤ other

/-! ## Columns in the order of a walk -/

/-- The columns of an expression with their places, in the order of the places. -/
structure Visits (refers : List Nat → TableName → Prop) (columns : List (List Nat × TableName)) :
    Prop where
  ascending : columns.Pairwise fun c d => c.1 < d.1
  mem_iff : ∀ place table, (place, table) ∈ columns ↔ refers place table

theorem columnTables_op (kind : Operation) (args : List Scalar) (type : Option LogicalType)
    (filter : Option Scalar) :
    (op kind args type filter).columnTables =
      (op kind args type filter).children.flatMap columnTables := by
  have hargs : ∀ args, columnTablesOfArgs args = args.flatMap columnTables := by
    intro args
    induction args with
    | nil => rfl
    | cons a rest ih => rw [columnTablesOfArgs, ih, List.flatMap_cons]
  rw [columnTables, hargs, children, List.flatMap_append]
  congr 1
  cases filter with
  | none => rfl
  | some f => simp [columnTablesOfFilter]

/-- A column stands at a place below the children `start`, `start + 1` and so on. -/
def RefersBelow (start : Nat) (children : List Scalar) (place : List Nat) (table : TableName) :
    Prop :=
  ∃ i child rest, children[i]? = some child ∧ place = (start + i) :: rest ∧
    child.RefersAt rest table

theorem refersBelow_cons {start : Nat} {child : Scalar} {others : List Scalar} {place : List Nat}
    {table : TableName} :
    RefersBelow start (child :: others) place table ↔
      (∃ rest, place = start :: rest ∧ child.RefersAt rest table) ∨
        RefersBelow (start + 1) others place table := by
  constructor
  · rintro ⟨i, c, rest, hc, rfl, hrest⟩
    cases i with
    | zero =>
      cases hc
      exact .inl ⟨rest, rfl, hrest⟩
    | succ i => exact .inr ⟨i, c, rest, hc, by rw [Nat.succ_add_eq_add_succ], hrest⟩
  · rintro (⟨rest, rfl, hrest⟩ | ⟨i, c, rest, hc, rfl, hrest⟩)
    · exact ⟨0, child, rest, rfl, rfl, hrest⟩
    · exact ⟨i + 1, c, rest, hc, by rw [Nat.succ_add_eq_add_succ], hrest⟩

theorem refersAt_op {kind : Operation} {args : List Scalar} {type : Option LogicalType}
    {filter : Option Scalar} {place : List Nat} {table : TableName} :
    (op kind args type filter).RefersAt place table ↔
      RefersBelow 0 (op kind args type filter).children place table := by
  cases place with
  | nil =>
    constructor
    · rintro ⟨name, t, h⟩
      cases h
    · rintro ⟨i, c, rest, hc, h, hrest⟩
      cases h
  | cons j place =>
    constructor
    · rintro ⟨name, t, h⟩
      obtain ⟨c, hc, h⟩ := Option.bind_eq_some_iff.1 h
      exact ⟨j, c, place, hc, by rw [Nat.zero_add], name, t, h⟩
    · rintro ⟨i, c, rest, hc, hplace, name, t, h⟩
      rw [Nat.zero_add] at hplace
      cases hplace
      exact ⟨name, t, Option.bind_eq_some_iff.2 ⟨c, hc, h⟩⟩

theorem exists_visits_below {children : List Scalar}
    (h : ∀ c ∈ children, ∃ columns, Visits c.RefersAt columns ∧
      columns.map (·.2) = c.columnTables) (start : Nat) :
    ∃ columns, Visits (RefersBelow start children) columns ∧
      columns.map (·.2) = children.flatMap columnTables := by
  induction children generalizing start with
  | nil =>
    refine ⟨[], ⟨.nil, ?_⟩, rfl⟩
    simp [RefersBelow]
  | cons c cs ih =>
    obtain ⟨hc, hcs⟩ := List.forall_mem_cons.1 h
    obtain ⟨columns, hvisits, htables⟩ := hc
    obtain ⟨others, hothers, htables'⟩ := ih hcs (start + 1)
    refine ⟨columns.map (fun c => (start :: c.1, c.2)) ++ others, ⟨?_, ?_⟩, ?_⟩
    · refine List.pairwise_append.2 ⟨?_, hothers.ascending, ?_⟩
      · refine List.pairwise_map.2 (hvisits.ascending.imp ?_)
        intro x y hlt
        exact List.cons_lt_cons_iff.2 (.inr ⟨rfl, hlt⟩)
      · rintro x hx ⟨place, table⟩ hy
        obtain ⟨x, -, rfl⟩ := List.mem_map.1 hx
        obtain ⟨i, -, rest, -, rfl, -⟩ := (hothers.mem_iff place table).1 hy
        exact List.cons_lt_cons_iff.2 (.inl (by omega))
    · intro place table
      rw [refersBelow_cons, List.mem_append, hothers.mem_iff]
      refine or_congr ?_ .rfl
      simp only [List.mem_map, Prod.mk.injEq, Prod.exists]
      constructor
      · rintro ⟨rest, t, hmem, rfl, rfl⟩
        exact ⟨rest, rfl, (hvisits.mem_iff _ _).1 hmem⟩
      · rintro ⟨rest, rfl, hrest⟩
        exact ⟨rest, table, (hvisits.mem_iff _ _).2 hrest, rfl, rfl⟩
    · simp [htables, htables', Function.comp_def]

/-- `columnTables` goes through the columns of an expression in the order of their places. -/
theorem exists_visits (e : Scalar) :
    ∃ columns, Visits e.RefersAt columns ∧ columns.map (·.2) = e.columnTables := by
  induction e using induct with
  | literal value type =>
    refine ⟨[], ⟨.nil, ?_⟩, rfl⟩
    rintro (_ | ⟨i, place⟩) table <;> simp [RefersAt, at?, children]
  | param name type =>
    refine ⟨[], ⟨.nil, ?_⟩, rfl⟩
    rintro (_ | ⟨i, place⟩) table <;> simp [RefersAt, at?, children]
  | column table name type =>
    refine ⟨[([], table)], ⟨List.pairwise_singleton _ _, ?_⟩, rfl⟩
    rintro (_ | ⟨i, place⟩) t <;> simp [RefersAt, at?, children, eq_comm]
  | op kind args type filter ihargs ihfilter =>
    have hchildren : ∀ c ∈ (op kind args type filter).children, ∃ columns,
        Visits c.RefersAt columns ∧ columns.map (·.2) = c.columnTables := by
      intro c hc
      rcases mem_children_op.1 hc with hc | hc
      · exact ihargs c hc
      · exact ihfilter c hc
    obtain ⟨columns, hvisits, htables⟩ := exists_visits_below hchildren 0
    refine ⟨columns, ⟨hvisits.ascending, ?_⟩, ?_⟩
    · intro place table
      rw [hvisits.mem_iff, refersAt_op]
    · rw [htables, columnTables_op]

end Scalar

/-! ## First occurrences -/

/-- Without repetitions, an item that is added at the end is new or is left out. -/
theorem eraseDups_append_singleton {α : Type} [DecidableEq α] (l : List α) (a : α) :
    (l ++ [a]).eraseDups = if a ∈ l then l.eraseDups else l.eraseDups ++ [a] := by
  rw [List.eraseDups_append]
  split
  · next h => simp [List.removeAll, h]
  · next h => simp [List.removeAll, h, List.eraseDups_cons]

theorem nodup_eraseDups {α : Type} [DecidableEq α] (l : List α) : l.eraseDups.Nodup := by
  induction l using List.reverseRecOn with
  | nil => exact List.nodup_nil
  | append_singleton l a ih =>
    rw [eraseDups_append_singleton]
    split
    · exact ih
    · next h =>
      refine List.nodup_append.2 ⟨ih, by simp, ?_⟩
      rintro b hb c hc rfl
      obtain rfl := List.mem_singleton.1 hc
      exact h (List.mem_eraseDups.1 hb)

namespace Scalar

/-- A column further on is the first of its table only if there is none before it. -/
theorem First.append {columns : List (List Nat × TableName)} {last : List Nat × TableName}
    (hlast : ∀ c ∈ columns, c.1 < last.1) {place : List Nat} {table : TableName}
    (h : First (fun p t => (p, t) ∈ columns) place table) :
    First (fun p t => (p, t) ∈ columns ++ [last]) place table where
  stands := List.mem_append_left _ h.stands
  least other hother := by
    rcases List.mem_append.1 hother with hother | hother
    · exact h.least other hother
    · obtain rfl := List.mem_singleton.1 hother
      exact (hlast _ h.stands).le

/-- Of columns in ascending order, the tables without repetitions are in the order of their first
columns. -/
theorem exists_firsts {columns : List (List Nat × TableName)}
    (h : columns.Pairwise fun c d => c.1 < d.1) :
    ∃ places, places.Pairwise (· < ·) ∧
      List.Forall₂ (First fun p t => (p, t) ∈ columns) places
        (columns.map (·.2)).eraseDups := by
  induction columns using List.reverseRecOn with
  | nil => exact ⟨[], .nil, .nil⟩
  | append_singleton columns last ih =>
    obtain ⟨hcolumns, -, hlast⟩ := List.pairwise_append.1 h
    obtain ⟨places, hplaces, hfirsts⟩ := ih hcolumns
    have hlast : ∀ c ∈ columns, c.1 < last.1 := fun c hc => hlast c hc last (by simp)
    have hkept : List.Forall₂ (First fun p t => (p, t) ∈ columns ++ [last]) places
        (columns.map (·.2)).eraseDups := hfirsts.imp fun _ _ => First.append hlast
    rw [List.map_append, List.map_singleton, eraseDups_append_singleton]
    split
    · exact ⟨places, hplaces, hkept⟩
    · next hnew =>
      refine ⟨places ++ [last.1], ?_, ?_⟩
      · refine List.pairwise_append.2 ⟨hplaces, List.pairwise_singleton _ _, ?_⟩
        rintro p hp q hq
        obtain rfl := List.mem_singleton.1 hq
        obtain ⟨table, -, hfirst⟩ := exists_of_mem_forall₂ hfirsts.flip hp
        exact hlast _ hfirst.stands
      · refine List.rel_append hkept (.cons ⟨by simp, ?_⟩ .nil)
        intro other hother
        rcases List.mem_append.1 hother with hother | hother
        · exact absurd (List.mem_map_of_mem hother) hnew
        · exact (congrArg Prod.fst (List.mem_singleton.1 hother)).ge

/-- The tables of an expression are in the order of their first columns. -/
theorem exists_firsts_tables (e : Scalar) :
    ∃ places, places.Pairwise (· < ·) ∧ List.Forall₂ (First e.RefersAt) places e.tables := by
  obtain ⟨columns, hvisits, htables⟩ := e.exists_visits
  have hrefers : e.RefersAt = fun p t => (p, t) ∈ columns := by
    funext p t
    exact propext (hvisits.mem_iff p t).symm
  rw [hrefers, tables, ← htables]
  exact exists_firsts hvisits.ascending

theorem mem_tables {e : Scalar} {table : TableName} :
    table ∈ e.tables ↔ ∃ place, e.RefersAt place table := by
  obtain ⟨columns, hvisits, htables⟩ := e.exists_visits
  rw [tables, List.mem_eraseDups, ← htables]
  simp only [List.mem_map, Prod.exists, hvisits.mem_iff, exists_eq_right]

/-! ## Rules keep the tables -/

/-- Notes a table that was not met before. -/
def noteTable (seen : List TableName) (table : TableName) : List TableName :=
  if table ∈ seen then seen else seen ++ [table]

/-- Two walks over tables note the same, whatever was met before. -/
def SameWalk (l l' : List TableName) : Prop :=
  ∀ seen, l.foldl noteTable seen = l'.foldl noteTable seen

theorem eraseDups_eq_foldl (l : List TableName) : l.eraseDups = l.foldl noteTable [] := by
  induction l using List.reverseRecOn with
  | nil => rfl
  | append_singleton l table ih =>
    have hmem : table ∈ l ↔ table ∈ l.foldl noteTable [] := by
      rw [← ih, List.mem_eraseDups]
    rw [eraseDups_append_singleton, List.foldl_append, List.foldl_cons, List.foldl_nil, noteTable,
      ← ih]
    simp only [hmem, ih]

theorem SameWalk.eraseDups_eq {l l' : List TableName} (h : SameWalk l l') :
    l.eraseDups = l'.eraseDups := by
  rw [eraseDups_eq_foldl, eraseDups_eq_foldl, h []]

theorem SameWalk.trans {l m n : List TableName} (h : SameWalk l m) (h' : SameWalk m n) :
    SameWalk l n :=
  fun seen => (h seen).trans (h' seen)

theorem SameWalk.append {l l' m m' : List TableName} (hl : SameWalk l l') (hm : SameWalk m m') :
    SameWalk (l ++ m) (l' ++ m') := by
  intro seen
  rw [List.foldl_append, List.foldl_append, hl, hm]

theorem SameWalk.flatMap {α : Type} {f g : α → List TableName} {l : List α}
    (h : ∀ a ∈ l, SameWalk (f a) (g a)) : SameWalk (l.flatMap f) (l.flatMap g) := by
  induction l with
  | nil => exact fun _ => rfl
  | cons a l ih =>
    obtain ⟨ha, hl⟩ := List.forall_mem_cons.1 h
    simp only [List.flatMap_cons]
    exact ha.append (ih hl)

/-- A walk notes what was met before, and all that it meets. -/
theorem mem_foldl_noteTable {l seen : List TableName} {table : TableName} :
    table ∈ l.foldl noteTable seen ↔ table ∈ seen ∨ table ∈ l := by
  induction l generalizing seen with
  | nil => simp
  | cons t l ih =>
    rw [List.foldl_cons, ih, noteTable]
    split <;> grind

/-- A walk over tables that were all met before notes nothing. -/
theorem foldl_noteTable_of_subset {l seen : List TableName} (h : ∀ t ∈ l, t ∈ seen) :
    l.foldl noteTable seen = seen := by
  induction l with
  | nil => rfl
  | cons t l ih =>
    obtain ⟨ht, hl⟩ := List.forall_mem_cons.1 h
    rw [List.foldl_cons, noteTable, if_pos ht, ih hl]

/-- Going through tables once more, when all of them were met, notes nothing more. -/
theorem sameWalk_again (l m n : List TableName) :
    SameWalk (l ++ m ++ (l ++ n)) (l ++ m ++ n) := by
  intro seen
  simp only [List.foldl_append]
  congr 1
  refine foldl_noteTable_of_subset fun t ht => ?_
  exact mem_foldl_noteTable.2 (.inl (mem_foldl_noteTable.2 (.inr ht)))

/-- The filters of nodes that the rules replace are dropped, so there must be none. -/
def RedexesUnfiltered (e : Scalar) : Prop :=
  ∀ node : Node, Occurs node.toScalar e → node.isRedex → node.filter = none

theorem redexesUnfiltered_op {kind : Operation} {args : List Scalar} {type : Option LogicalType}
    {filter : Option Scalar} :
    (op kind args type filter).RedexesUnfiltered ↔
      ((Node.mk kind args type filter).isRedex → filter = none) ∧
        (∀ a ∈ args, a.RedexesUnfiltered) ∧ ∀ f ∈ filter, f.RedexesUnfiltered := by
  constructor
  · intro h
    refine ⟨h ⟨kind, args, type, filter⟩ .here, ?_, ?_⟩
    · exact fun a ha node hnode => h node (.operand ha hnode)
    · rintro f rfl node hnode
      exact h node (.filter hnode)
  · rintro ⟨hnode, hargs, hfilter⟩ ⟨k, as, t, f⟩ hoccurs
    change Occurs (.op k as t f) _ at hoccurs
    cases hoccurs with
    | here => exact hnode
    | operand harg h => exact hargs _ harg ⟨k, as, t, f⟩ h
    | filter h => exact hfilter _ rfl ⟨k, as, t, f⟩ h

theorem redexesUnfiltered_column (table : TableName) (name : String) (type : Option LogicalType) :
    (column table name type).RedexesUnfiltered := by
  rintro ⟨k, as, t, f⟩ hoccurs
  change Occurs (.op k as t f) _ at hoccurs
  cases hoccurs

theorem columnTables_apply (kind : Operation) (args : List Scalar) :
    (apply kind args).columnTables = args.flatMap columnTables := by
  rw [apply, columnTables_op, children, Option.toList_none, List.append_nil]

/-- Going through a normal form notes the tables that going through the expression notes. -/
theorem RedexesUnfiltered.sameWalk {e : Scalar} (h : e.RedexesUnfiltered) :
    SameWalk e.normalForm.columnTables e.columnTables := by
  induction e using induct with
  | literal | column | param => exact fun _ => rfl
  | op kind args type filter ihargs ihfilter =>
    obtain ⟨hnode, hunfiltered, hunfiltered'⟩ := redexesUnfiltered_op.1 h
    have hargs : ∀ a ∈ args, SameWalk a.normalForm.columnTables a.columnTables :=
      fun a ha => ihargs a ha (hunfiltered a ha)
    cases hredex : (Node.mk kind args type filter).isRedex with
    | false =>
      have hfilter : ∀ f ∈ filter, SameWalk f.normalForm.columnTables f.columnTables :=
        fun f hf => ihfilter f hf (hunfiltered' f hf)
      have hchildren : ∀ c ∈ (op kind args type filter).children,
          SameWalk c.normalForm.columnTables c.columnTables := by
        intro c hc
        rcases mem_children_op.1 hc with hc | hc
        · exact hargs c hc
        · exact hfilter c hc
      have hmapped : (op kind (args.map normalForm) type (filter.map normalForm)).children =
          (op kind args type filter).children.map normalForm := by
        cases filter <;> simp [children]
      rw [normalForm_of_not_isRedex hredex, columnTables_op, columnTables_op, hmapped,
        List.flatMap_map]
      exact .flatMap hchildren
    | true =>
      obtain rfl : filter = none := hnode hredex
      rw [normalForm_op, columnTables_op, children, Option.toList_none, List.append_nil]
      obtain ⟨x, lo, hi, rfl, rfl⟩ | ⟨x, rfl, rfl⟩ | ⟨x, y, rfl, rfl⟩ := isRedex_cases hredex
      · have hx := hargs x (by simp)
        have hlo := hargs lo (by simp)
        have hhi := hargs hi (by simp)
        have hleft : (contract ⟨.between, [x, lo, hi].map normalForm, type, none⟩).columnTables =
            x.normalForm.columnTables ++ lo.normalForm.columnTables ++
              (x.normalForm.columnTables ++ hi.normalForm.columnTables) := by
          show ((x.normalForm.atLeast lo.normalForm).and
            (x.normalForm.atMost hi.normalForm)).columnTables = _
          simp [Scalar.and, atLeast, atMost, columnTables_apply]
        rw [Option.map_none, hleft]
        -- the tested operand is met a second time before the upper bound
        refine (sameWalk_again _ _ _).trans ?_
        simpa using (hx.append hlo).append hhi
      · show SameWalk (apply .isNull [x.normalForm]).not.columnTables _
        simpa [Scalar.not, columnTables_apply] using hargs x (by simp)
      · show SameWalk (apply .coalesce [x.normalForm, y.normalForm]).columnTables _
        simpa [columnTables_apply] using (hargs x (by simp)).append (hargs y (by simp))

/-- Rules that drop no filter keep the tables of an expression, and their order. -/
theorem RedexesUnfiltered.tables_normalForm {e : Scalar} (h : e.RedexesUnfiltered) :
    e.normalForm.tables = e.tables :=
  h.sameWalk.eraseDups_eq

end Scalar

/-! ## The table of a scalar root -/

namespace Statement

variable {e : Scalar} {name : String}

/-- A scalar over at most one table is refused for causes of expressions only. -/
theorem failsAsExpression_ofScalar (h : e.tables.length < 2) :
    FailsAsExpression (ofScalar e name).result := by
  unfold ofScalar
  split
  · exact .andThen (Lower.failsAsExpression_lower _ .value e) fun _ => failsAsExpression_ok _
  · next table _ =>
    have hregister : FailsAsExpression (Aliases.empty.register table) := by
      rw [Aliases.register, dif_neg (by simp [Aliases.empty])]
      exact failsAsExpression_ok _
    refine .andThen hregister fun aliases => ?_
    exact .andThen (Lower.failsAsExpression_lower aliases .value e) fun _ =>
      failsAsExpression_ok _
  · next hnone hone =>
    match htables : e.tables with
    | [] => exact absurd htables hnone
    | [table] => exact absurd htables (hone table)
    | _ :: _ :: _ =>
      rw [htables, List.length_cons, List.length_cons] at h
      omega

/-- A scalar is refused for several tables if it has several, and for no other reason. -/
theorem ofScalar_eq_severalTables {tables : List TableName} :
    (ofScalar e name).result = .error (.invalidExpression (.severalTables tables)) ↔
      tables = e.tables ∧ 2 ≤ e.tables.length := by
  constructor
  · intro h
    by_cases hseveral : e.tables.length < 2
    · cases failsAsExpression_ofScalar hseveral _ h
    · refine ⟨?_, by omega⟩
      unfold ofScalar at h
      split at h
      · next hnone => simp [hnone] at hseveral
      · next hone => simp [hone] at hseveral
      · cases h
        rfl
  · rintro ⟨rfl, hseveral⟩
    unfold ofScalar
    split
    · next hnone => simp [hnone] at hseveral
    · next hone => simp [hone] at hseveral
    · rfl

/-- A scalar is selected from its only table, if it has one. -/
theorem source_of_ofScalar {s : Sql.Select} (h : (ofScalar e name).result = .ok s) :
    s.source = e.tables.head?.map (tableRef · "t0") := by
  unfold ofScalar at h
  split at h
  · next hnone =>
    simp only [Lowering.result_bind_eq_ok] at h
    obtain ⟨x, -, h⟩ := h
    cases h
    rw [hnone]
    rfl
  · next table hone =>
    simp only [Lowering.result_bind_eq_ok] at h
    obtain ⟨aliases, -, x, -, h⟩ := h
    cases h
    rw [hone]
    rfl
  · cases h

/-- Compiling a scalar fails with the cause for which its normal form has no statement. -/
theorem compile_scalar_eq_error {name : Option String} {params : Params} {cause : CompileError} :
    compile (.scalar e name) params = .error cause ↔
      (ofScalar (RuleSet.base.normalize e) (name.getD Query.defaultName)).result =
        .error cause :=
  compile_eq_error

/-- A compiled scalar is the statement of its normal form. -/
theorem result_ofScalar_of_compile {name : Option String} {params : Params} {c : Compiled}
    (h : compile (.scalar e name) params = .ok c) :
    (ofScalar (RuleSet.base.normalize e) (name.getD Query.defaultName)).result =
      .ok c.select :=
  (compile_eq_ok.1 h).1

end Statement

/-! ## Tables and rules -/

open Scalar in
/-- The tables of an expression are listed without repetition, they are those to which some column
in it refers, and they are in the order of their first columns, where a walk from left to right
visits the operands of a node before its filter. If no node that the base rules replace has a
filter, the rules keep the list; so a scalar root is refused for several tables exactly if it has
several as it was written, and is selected from the one that it has. -/
theorem tables_at_first_columns (e : Scalar) :
    e.tables.Nodup ∧
    (∀ table, table ∈ e.tables ↔ ∃ place, e.RefersAt place table) ∧
    (∃ places, places.Pairwise (· < ·) ∧ List.Forall₂ (First e.RefersAt) places e.tables) ∧
    (e.RedexesUnfiltered →
      (RuleSet.base.normalize e).tables = e.tables ∧
      (∀ name params tables,
        compile (.scalar e name) params = .error (.invalidExpression (.severalTables tables)) ↔
          tables = e.tables ∧ 2 ≤ e.tables.length) ∧
      (∀ name params c, compile (.scalar e name) params = .ok c →
        c.select.source = e.tables.head?.map (Statement.tableRef · "t0"))) := by
  refine ⟨nodup_eraseDups _, fun _ => mem_tables, e.exists_firsts_tables, fun h => ?_⟩
  have htables : (RuleSet.base.normalize e).tables = e.tables := by
    rw [RuleSet.normalize_eq_normalForm]
    exact h.tables_normalForm
  refine ⟨htables, ?_, ?_⟩
  · intro name params tables
    rw [← htables, ← Statement.ofScalar_eq_severalTables]
    exact Statement.compile_scalar_eq_error
  · intro name params c hc
    rw [← htables]
    exact Statement.source_of_ofScalar (Statement.result_ofScalar_of_compile hc)

open Scalar in
/-- A range test over three tables in a sum whose filter tests a column, itself without filters: the
rule copies the first operand, and the tables stay. -/
theorem tables_at_first_columns_of_range :
    let column : String → Scalar := fun t => .column ⟨none, t⟩ "x" (some .int64)
    let range : Scalar := apply .between [column "b", column "a", column "b"]
    let e : Scalar := .op .sum [range] none (some (apply .notNull [column "c"]))
    e.RedexesUnfiltered ∧ e.tables = [⟨none, "b"⟩, ⟨none, "a"⟩, ⟨none, "c"⟩] ∧
      (RuleSet.base.normalize e).tables = e.tables ∧
      compile (.scalar e none) .empty = .error (.invalidExpression (.severalTables e.tables)) := by
  intro column range e
  have hcolumn : ∀ t, (column t).RedexesUnfiltered := fun t => redexesUnfiltered_column _ _ _
  have h : e.RedexesUnfiltered := by
    refine redexesUnfiltered_op.2 ⟨nofun, ?_, ?_⟩
    · simp [range, apply, redexesUnfiltered_op, hcolumn]
    · simp [apply, redexesUnfiltered_op, hcolumn]
  obtain ⟨htables, hrefused, -⟩ := (tables_at_first_columns e).2.2.2 h
  exact ⟨h, by decide, htables, (hrefused none .empty e.tables).2 ⟨rfl, by decide⟩⟩

end TransactSql
