import Mathlib
import TransactSql.Relation.Build

/-!
# Rows of relations

A relation stands for a list of rows. What rows are, what an expression says on a row or on a
group of rows, and how values are ordered is left open: all of that is a `RowModel`, and a database
gives the rows of every table. A selection keeps the rows on which its predicates are true, sorts
them without disturbing rows of equal keys, cuts out a page and then projects; an aggregation
groups the rows that it keeps and does the same with the groups.

The steps that build relations either change the outermost selection in place or put a new one
around it. `fused_steps_keep_rows` says that this is no more than a choice of form: filtering,
limiting, projecting and aggregating act on the rows that the relation had. The one argument behind
it that is not a matter of unfolding is that rows can be left out before or after they are sorted,
`filter_sorted`, and it rests on the sort being stable.
-/

namespace TransactSql

universe u v

/-- What expressions say on rows, for rows and values of any kind. -/
structure RowModel (Row : Type u) (V : Type v) where
  /-- The value of an expression on a row. -/
  onRow : Scalar → Row → V
  /-- The value of an expression on a group of rows. -/
  onGroup : Scalar → List Row → V
  /-- Whether a value is true. What is neither true nor false is not. -/
  isTrue : V → Bool
  /-- The order of values when rows are sorted. -/
  le : V → V → Bool
  le_trans : ∀ x y z, le x y → le y z → le x z
  le_total : ∀ x y, le x y || le y x
  /-- The row that has values under names. -/
  record : List (String × V) → Row
  /-- Two rows joined to one. -/
  beside : Row → Row → Row
  /-- What stands for a row of a relation where a join finds none. -/
  blank : Relation → Row

/-- Whether a join keeps rows of its left side that match nothing. -/
def JoinKind.keepsLeft : JoinKind → Bool
  | left | outer => true
  | inner | right => false

/-- Whether a join keeps rows of its right side that match nothing. -/
def JoinKind.keepsRight : JoinKind → Bool
  | right | outer => true
  | inner | left => false

/-- Skips rows and cuts off what follows the limit. -/
def Limit.page {α : Type u} : Option Limit → List α → List α
  | none, l => l
  | some limit, l => (l.drop limit.offset.toNat).take limit.count.toNat

/-- Whether a relation is a table, a join or a selection, so that its rows are no groups. -/
def Relation.IsPlain : Relation → Prop
  | table _ | join .. | selection .. => True
  | aggregation .. => False

namespace RowModel

variable {Row : Type u} {V : Type v} {α : Type u} (M : RowModel Row V)

/-- Whether every predicate is true. -/
def holds (value : Scalar → α → V) (predicates : List Scalar) (a : α) : Bool :=
  predicates.all fun p => M.isTrue (value p a)

/-- The order of values under a key. -/
def keyLe (key : SortKey) (x y : V) : Bool :=
  if key.descending then M.le y x else M.le x y

/-- Whether an item may stand before another: the first key on which they differ decides. -/
def ordered (value : Scalar → α → V) : List SortKey → α → α → Bool
  | [], _, _ => true
  | key :: rest, a, b =>
    M.keyLe key (value key.expr a) (value key.expr b) &&
      (!M.keyLe key (value key.expr b) (value key.expr a) || ordered value rest a b)

/-- Items by ascending keys; items with equal keys stay in the order that they had. -/
def sorted (value : Scalar → α → V) (keys : List SortKey) (l : List α) : List α :=
  l.mergeSort (M.ordered value keys)

/-- The row of named values on a row. -/
def project (projections : List Named) (row : Row) : Row :=
  M.record (projections.map fun n => (n.name, M.onRow n.expr row))

/-- The rows of a selection from the rows of its source. -/
def selected (parts : Selection) (rows : List Row) : List Row :=
  let kept := rows.filter (M.holds M.onRow parts.predicates)
  let cut := Limit.page parts.limit (M.sorted M.onRow parts.sortKeys kept)
  if parts.projections.isEmpty then cut else cut.map (M.project parts.projections)

/-- Rows in groups of equal keys, in the order in which the groups begin. Without keys all rows are
one group, also where there is no row. -/
def groups [DecidableEq V] (keys : List Named) (rows : List Row) : List (List Row) :=
  let key row := keys.map fun n => M.onRow n.expr row
  if keys.isEmpty then [rows]
  else (rows.map key).eraseDups.map fun k => rows.filter fun row => key row = k

/-- The rows of an aggregation from the rows of its source. -/
def aggregated [DecidableEq V] (parts : Aggregation) (rows : List Row) : List Row :=
  let kept := rows.filter (M.holds M.onRow parts.predicates)
  let groups := (M.groups parts.keys kept).filter (M.holds M.onGroup parts.having)
  (Limit.page parts.limit (M.sorted M.onGroup parts.sortKeys groups)).map fun group =>
    M.record ((parts.keys ++ parts.metrics).map fun n => (n.name, M.onGroup n.expr group))

/-- The rows of a join from the rows of its sides: the pairs on which the predicates are true, and
the rows without a partner that the kind of join keeps. -/
def joined (kind : JoinKind) (predicates : List Scalar) (left right : List Row)
    (blankLeft blankRight : Row) : List Row :=
  let found l r := M.holds M.onRow predicates (M.beside l r)
  let lonely l := !right.any (found l)
  left.flatMap (fun l =>
      if lonely l && kind.keepsLeft then [M.beside l blankRight]
      else (right.filter (found l)).map (M.beside l))
    ++ (if kind.keepsRight then
        (right.filter fun r => !left.any (found · r)).map (M.beside blankLeft)
      else [])

/-- The rows of a relation in a database. -/
def rows [DecidableEq V] (database : Table → List Row) : Relation → List Row
  | .table t => database t
  | .selection source parts => M.selected parts (rows database source)
  | .aggregation source parts => M.aggregated parts (rows database source)
  | .join left right kind predicates =>
    M.joined kind predicates (rows database left) (rows database right)
      (M.blank left) (M.blank right)

/-! ## Sorting -/

theorem keyLe_trans (key : SortKey) {x y z : V} (hxy : M.keyLe key x y) (hyz : M.keyLe key y z) :
    M.keyLe key x z := by
  unfold keyLe at *
  split at hxy
  · next h =>
    rw [if_pos h] at hyz ⊢
    exact M.le_trans z y x hyz hxy
  · next h =>
    rw [if_neg h] at hyz ⊢
    exact M.le_trans x y z hxy hyz

theorem keyLe_total (key : SortKey) (x y : V) : M.keyLe key x y ∨ M.keyLe key y x := by
  unfold keyLe
  split
  · exact (Bool.or_eq_true_iff.1 (M.le_total y x))
  · exact (Bool.or_eq_true_iff.1 (M.le_total x y))

theorem ordered_cons {value : Scalar → α → V} {key : SortKey} {rest : List SortKey} {a b : α} :
    M.ordered value (key :: rest) a b ↔
      M.keyLe key (value key.expr a) (value key.expr b) ∧
        (M.keyLe key (value key.expr b) (value key.expr a) → M.ordered value rest a b) := by
  rw [ordered, Bool.and_eq_true, Bool.or_eq_true, Bool.not_eq_true', ← Bool.not_eq_true,
    ← imp_iff_not_or]

theorem ordered_trans (value : Scalar → α → V) (keys : List SortKey) (a b c : α)
    (hab : M.ordered value keys a b) (hbc : M.ordered value keys b c) :
    M.ordered value keys a c := by
  induction keys with
  | nil => rfl
  | cons key rest ih =>
    rw [ordered_cons] at *
    refine ⟨M.keyLe_trans key hab.1 hbc.1, fun hca => ?_⟩
    -- the outer two are equal on the key, so the one between them is equal to both
    have hba := M.keyLe_trans key hbc.1 hca
    have hcb := M.keyLe_trans key hca hab.1
    exact ih (hab.2 hba) (hbc.2 hcb)

theorem ordered_total (value : Scalar → α → V) (keys : List SortKey) (a b : α) :
    M.ordered value keys a b || M.ordered value keys b a := by
  rw [Bool.or_eq_true]
  induction keys with
  | nil => exact .inl rfl
  | cons key rest ih =>
    simp only [ordered_cons]
    rcases M.keyLe_total key (value key.expr a) (value key.expr b) with hab | hba
    · by_cases hba : M.keyLe key (value key.expr b) (value key.expr a)
      · exact ih.imp (fun h => ⟨hab, fun _ => h⟩) fun h => ⟨hba, fun _ => h⟩
      · exact .inl ⟨hab, fun h => absurd h hba⟩
    · by_cases hab : M.keyLe key (value key.expr a) (value key.expr b)
      · exact ih.imp (fun h => ⟨hab, fun _ => h⟩) fun h => ⟨hba, fun _ => h⟩
      · exact .inr ⟨hba, fun h => absurd h hab⟩

/-- A list is cut in one way only into a part with a property and a part without. -/
theorem cut_unique {p : α → Bool} {xs ys xs' ys' : List α} (h : xs ++ ys = xs' ++ ys')
    (hxs : ∀ a ∈ xs, p a) (hys : ∀ a ∈ ys, ¬p a) (hxs' : ∀ a ∈ xs', p a)
    (hys' : ∀ a ∈ ys', ¬p a) : xs = xs' ∧ ys = ys' := by
  have hleft : xs = xs' := by
    have hfilter := congrArg (List.filter p) h
    rw [List.filter_append, List.filter_append, List.filter_eq_self.2 hxs,
      List.filter_eq_self.2 hxs', List.filter_eq_nil_iff.2 hys, List.filter_eq_nil_iff.2 hys',
      List.append_nil, List.append_nil] at hfilter
    exact hfilter
  subst hleft
  exact ⟨rfl, List.append_cancel_left h⟩

section

variable {le : α → α → Bool} (trans : ∀ a b c, le a b → le b c → le a c)
  (total : ∀ a b, le a b || le b a)
include trans total

theorem le_of_mergeSort_eq {l xs ys : List α} {a : α} (h : l.mergeSort le = xs ++ a :: ys) :
    ∀ b ∈ ys, le a b := by
  have hpairs := List.pairwise_mergeSort trans total l
  rw [h, List.pairwise_append, List.pairwise_cons] at hpairs
  exact hpairs.2.1.1

/-- A stable sort does not mind whether items are left out before or after it. -/
theorem filter_mergeSort (p : α → Bool) (l : List α) :
    (l.mergeSort le).filter p = (l.filter p).mergeSort le := by
  induction l with
  | nil => simp
  | cons a rest ih =>
    obtain ⟨xs, ys, hsort, hrest, hxs⟩ := List.mergeSort_cons trans total a rest
    by_cases ha : p a
    · obtain ⟨us, ws, hsort', hrest', hus⟩ :=
        List.mergeSort_cons trans total a (rest.filter p)
      have hys := le_of_mergeSort_eq trans total hsort
      have hws := le_of_mergeSort_eq trans total hsort'
      have hsplit : xs.filter p ++ ys.filter p = us ++ ws := by
        rw [← List.filter_append, ← hrest, ih, hrest']
      -- what stands in front of `a` is in both lists what is less than `a`
      obtain ⟨hfront, hback⟩ := cut_unique (p := fun b => !le a b) hsplit
        (fun b hb => hxs b (List.mem_filter.1 hb).1)
        (fun b hb => by simp [hys b (List.mem_filter.1 hb).1]) hus
        (fun b hb => by simp [hws b hb])
      rw [List.filter_cons_of_pos ha, hsort, hsort', List.filter_append,
        List.filter_cons_of_pos ha, hfront, hback]
    · rw [List.filter_cons_of_neg ha, ← ih, hsort, hrest, List.filter_append, List.filter_append,
        List.filter_cons_of_neg ha]

end

theorem filter_sorted (value : Scalar → α → V) (keys : List SortKey) (p : α → Bool)
    (l : List α) :
    (M.sorted value keys l).filter p = M.sorted value keys (l.filter p) :=
  filter_mergeSort (M.ordered_trans value keys) (M.ordered_total value keys) p l

/-- Without keys nothing is moved. -/
@[simp]
theorem sorted_nil (value : Scalar → α → V) (l : List α) : M.sorted value [] l = l := by
  refine List.mergeSort_of_pairwise ?_
  exact List.pairwise_of_forall fun _ _ => rfl

/-! ## Selections -/

@[simp]
theorem holds_nil (value : Scalar → α → V) (a : α) : M.holds value [] a = true := rfl

theorem filter_holds_append (value : Scalar → α → V) (ps qs : List Scalar) (l : List α) :
    l.filter (M.holds value (ps ++ qs)) =
      (l.filter (M.holds value ps)).filter (M.holds value qs) := by
  rw [List.filter_filter]
  refine List.filter_congr fun a _ => ?_
  rw [holds, List.all_append, Bool.and_comm]
  rfl

@[simp]
theorem filter_holds_nil (value : Scalar → α → V) (l : List α) :
    l.filter (M.holds value []) = l :=
  List.filter_eq_self.2 fun a _ => M.holds_nil value a

/-- The rows of a selection that neither projects nor limits. -/
theorem selected_of_plain (parts : Selection) (hlimit : parts.limit = none)
    (hprojections : parts.projections = []) (l : List Row) :
    M.selected parts l =
      M.sorted M.onRow parts.sortKeys (l.filter (M.holds M.onRow parts.predicates)) := by
  simp [selected, hlimit, hprojections, Limit.page]

/-- What a selection with a limit keeps is a page of what it keeps without. -/
theorem selected_limit (parts : Selection) (hlimit : parts.limit = none) (limit : Limit)
    (l : List Row) :
    M.selected { parts with limit := some limit } l =
      Limit.page (some limit) (M.selected parts l) := by
  unfold selected Limit.page
  dsimp only
  rw [hlimit]
  split
  · rfl
  · rw [List.map_take, List.map_drop]

theorem selected_filter_only (predicates : List Scalar) (l : List Row) :
    M.selected { predicates } l = l.filter (M.holds M.onRow predicates) := by
  rw [M.selected_of_plain _ rfl rfl, sorted_nil]

theorem selected_nothing (l : List Row) : M.selected {} l = l := by
  rw [M.selected_filter_only [] l, filter_holds_nil]

theorem selected_limit_only (limit : Limit) (l : List Row) :
    M.selected { limit := some limit } l = Limit.page (some limit) l := by
  have h := M.selected_limit {} rfl limit l
  rw [selected_nothing] at h
  exact h

/-- What a selection projects is what it keeps without projections. -/
theorem selected_project (parts : Selection) (hprojections : parts.projections = [])
    {projections : List Named} (hne : projections ≠ []) (l : List Row) :
    M.selected { parts with projections } l = (M.selected parts l).map (M.project projections) := by
  unfold selected
  dsimp only
  rw [hprojections, if_neg (by simpa using hne)]
  rfl

theorem selected_project_only {projections : List Named} (hne : projections ≠ [])
    (l : List Row) : M.selected { projections } l = l.map (M.project projections) := by
  have h := M.selected_project {} rfl hne l
  rw [selected_nothing] at h
  exact h

/-! ## Steps -/

section

variable [DecidableEq V] (database : Table → List Row)

theorem rows_filter {r : Relation} (hr : r.IsPlain) (predicates : List Scalar) :
    M.rows database (r.filter predicates) =
      (M.rows database r).filter (M.holds M.onRow predicates) := by
  have hnested : M.rows database (.selection r { predicates }) =
      (M.rows database r).filter (M.holds M.onRow predicates) :=
    M.selected_filter_only predicates _
  cases r with
  | table t => exact hnested
  | join left right kind on => exact hnested
  | aggregation source parts => exact hr.elim
  | selection source parts =>
    unfold Relation.filter
    dsimp only
    split
    · next h =>
      rw [Bool.and_eq_true, Option.isNone_iff_eq_none, List.isEmpty_iff] at h
      rw [rows, rows, M.selected_of_plain parts h.1 h.2,
        M.selected_of_plain { parts with predicates := parts.predicates ++ predicates } h.1 h.2]
      -- the new predicates meet the rows before they are sorted, and not after
      rw [filter_holds_append, filter_sorted]
    · exact hnested

theorem rows_limit {r : Relation} (hr : r.IsPlain) (count offset : UInt64) :
    M.rows database (r.limit count offset) =
      ((M.rows database r).drop offset.toNat).take count.toNat := by
  have hnested : M.rows database (.selection r { limit := some ⟨count, offset⟩ }) =
      ((M.rows database r).drop offset.toNat).take count.toNat :=
    M.selected_limit_only ⟨count, offset⟩ _
  cases r with
  | table t => exact hnested
  | join left right kind on => exact hnested
  | aggregation source parts => exact hr.elim
  | selection source parts =>
    unfold Relation.limit
    dsimp only
    split
    · next h => exact M.selected_limit parts (Option.isNone_iff_eq_none.1 h) _ _
    · exact hnested

theorem rows_select {r : Relation} (hr : r.IsPlain) {projections : List Named}
    (hne : projections ≠ []) :
    M.rows database (r.select projections) =
      (M.rows database r).map (M.project projections) := by
  have hnested : M.rows database (.selection r { projections }) =
      (M.rows database r).map (M.project projections) :=
    M.selected_project_only hne _
  cases r with
  | table t => exact hnested
  | join left right kind on => exact hnested
  | aggregation source parts => exact hr.elim
  | selection source parts =>
    unfold Relation.select
    dsimp only
    split
    · next h =>
      rw [Bool.and_eq_true, List.isEmpty_iff] at h
      exact M.selected_project parts h.2 hne _
    · exact hnested

theorem rows_aggregate (r : Relation) (keys metrics : List Named) :
    M.rows database (r.aggregate keys metrics) =
      M.rows database (.aggregation r { keys, metrics }) := by
  cases r with
  | table t => rfl
  | join left right kind on => rfl
  | aggregation source parts => rfl
  | selection source parts =>
    unfold Relation.aggregate
    dsimp only
    split
    · next h =>
      simp only [Bool.and_eq_true, List.isEmpty_iff, Option.isNone_iff_eq_none] at h
      obtain ⟨⟨hprojections, hkeys⟩, hlimit⟩ := h
      rw [rows, rows, rows, M.selected_of_plain parts hlimit hprojections, hkeys, sorted_nil]
      simp only [aggregated, filter_holds_nil]
    · rfl

end

end RowModel

/-- Sorting twice is sorting once, by the keys of both steps. -/
theorem Relation.orderBy_orderBy (r : Relation) (a b : List SortKey) :
    (r.orderBy a).orderBy b = r.orderBy (a ++ b) := by
  cases r with
  | table t => rfl
  | join left right kind on => rfl
  | selection source parts =>
    by_cases h : parts.limit.isNone
    · simp [orderBy, h, List.append_assoc]
    · simp [orderBy, h]
  | aggregation source parts =>
    by_cases h : parts.limit.isNone
    · simp [orderBy, h, List.append_assoc]
    · simp [orderBy, h]

/-- The steps that build relations act on rows, whether they change a selection in place or put a
new one around it. On a table, a join or a selection of whatever source, a filter keeps the rows on
which its predicates are true, in their order; a limit skips and cuts; projections are computed row
by row; and an aggregation is that of the relation itself. Keys by which any relation is sorted in
two steps are the keys of one. -/
theorem fused_steps_keep_rows {Row : Type u} {V : Type v} [DecidableEq V] (M : RowModel Row V)
    (database : Table → List Row) (r : Relation) :
    (r.IsPlain →
      (∀ predicates, M.rows database (r.filter predicates) =
        (M.rows database r).filter (M.holds M.onRow predicates)) ∧
      (∀ count offset, M.rows database (r.limit count offset) =
        ((M.rows database r).drop offset.toNat).take count.toNat) ∧
      (∀ projections, projections ≠ [] → M.rows database (r.select projections) =
        (M.rows database r).map (M.project projections)) ∧
      (∀ keys metrics, M.rows database (r.aggregate keys metrics) =
        M.rows database (.aggregation r { keys, metrics }))) ∧
    (∀ a b, (r.orderBy a).orderBy b = r.orderBy (a ++ b)) := by
  refine ⟨fun hr => ⟨?_, ?_, ?_, ?_⟩, r.orderBy_orderBy⟩
  · intro predicates
    exact M.rows_filter database hr predicates
  · intro count offset
    exact M.rows_limit database hr count offset
  · intro projections hne
    exact M.rows_select database hr hne
  · intro keys metrics
    exact M.rows_aggregate database r keys metrics

/-! ## Pairs of numbers as rows -/

/-- Rows of two columns `k` and `n` with numbers, where zero is not true and a group has sums. -/
def RowModel.pairs : RowModel (Nat × Nat) Nat where
  onRow := pick
  onGroup e group := (group.map (pick e)).sum
  isTrue n := n != 0
  le x y := decide (x ≤ y)
  le_trans x y z hxy hyz := by
    simp only [decide_eq_true_eq] at *
    exact Nat.le_trans hxy hyz
  le_total x y := by
    simp only [Bool.or_eq_true, decide_eq_true_eq]
    exact Nat.le_total x y
  record values := ((values.lookup "k").getD 0, (values.lookup "n").getD 0)
  beside left right := (left.1, right.2)
  blank _ := (0, 0)
where
  /-- The number in a column. -/
  pick : Scalar → Nat × Nat → Nat
    | .column _ "k" _, row => row.1
    | .column _ "n" _, row => row.2
    | _, _ => 0

/-- Rows that are sorted by one column and filtered by the other: those with equal keys stay in
their order, as they do when the rows are filtered in the end. -/
theorem fused_steps_keep_rows_of_sorted :
    let M := RowModel.pairs
    let database : Table → List (Nat × Nat) := fun _ => [(1, 0), (2, 5), (1, 9), (2, 0), (2, 7)]
    let k : Scalar := .column ⟨none, "t"⟩ "k" (some .int64)
    let n : Scalar := .column ⟨none, "t"⟩ "n" (some .int64)
    let r : Relation := .selection (.table ⟨⟨none, "t"⟩, []⟩) { sortKeys := [⟨k, true⟩] }
    r.IsPlain ∧ M.rows database (r.filter [n]) = [(2, 5), (2, 7), (1, 9)] ∧
      M.rows database ((r.filter [n]).limit 1 1) = [(2, 7)] ∧
      M.rows database (r.select [⟨"n", k⟩]) = [(0, 2), (0, 2), (0, 2), (0, 1), (0, 1)] := by
  intro M database k n r
  have hrows : M.rows database r = [(2, 5), (2, 0), (2, 7), (1, 0), (1, 9)] := by
    cbv
  obtain ⟨hfilter, -, hselect, -⟩ := (fused_steps_keep_rows M database r).1 trivial
  obtain ⟨-, hlimit, -, -⟩ := (fused_steps_keep_rows M database (r.filter [n])).1 trivial
  refine ⟨trivial, ?_, ?_, ?_⟩
  · rw [hfilter, hrows]
    decide
  · rw [hlimit, hfilter, hrows]
    decide
  · rw [hselect _ (by simp), hrows]
    decide

end TransactSql
