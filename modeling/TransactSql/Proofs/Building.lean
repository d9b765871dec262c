import Mathlib.Tactic.Common
import TransactSql.Relation.Build
import TransactSql.Relation.Traverse

/-!
# Building loses nothing

A relation is built by calls, and each call either changes the outermost selection or aggregation
or puts a new node around the relation. Where a call changes a node it overwrites some lists and
extends others, and it may do so only because of what it has checked before.

`Relation.content` lists what a relation was given, as whatever it was given. `Relation.grown_call`
says once what a call can do; from it follows that a call adds to the content what it was given and
touches nothing else (`content_call`), and that it adds tables only as the right side of a join
(`leaves_call`). `building_keeps_content` says the same of any sequence of calls.
-/

namespace TransactSql

/-! ## Content -/

/-- One of the things that a relation is given. -/
inductive Part where
  | projection (n : Named)
  | predicate (p : Scalar)
  | key (n : Named)
  | metric (n : Named)
  | sortKey (k : SortKey)
  | limit (l : Limit)

namespace Part

/-- The expression of a part; a limit has none. -/
def expr? : Part → Option Scalar
  | projection n | key n | metric n => some n.expr
  | predicate p => some p
  | sortKey k => some k.expr
  | limit _ => none

/-- The limit that a part is. -/
def limit? : Part → Option Limit
  | limit l => some l
  | _ => none

end Part

/-- What a selection was given. -/
def Selection.content (s : Selection) : List Part :=
  s.projections.map .projection ++ s.predicates.map .predicate ++ s.sortKeys.map .sortKey
    ++ s.limit.toList.map .limit

/-- What an aggregation was given. -/
def Aggregation.content (a : Aggregation) : List Part :=
  a.keys.map .key ++ a.metrics.map .metric ++ a.predicates.map .predicate
    ++ a.having.map .predicate ++ a.sortKeys.map .sortKey ++ a.limit.toList.map .limit

namespace Relation

/-- All that a relation was given, wherever it stands in the relation. -/
def content : Relation → List Part
  | table _ => []
  | selection source parts => source.content ++ parts.content
  | aggregation source parts => source.content ++ parts.content
  | join left right _ predicates => left.content ++ right.content ++ predicates.map .predicate

/-- The tables of a relation, from left to right. -/
def leaves : Relation → List Table
  | table t => [t]
  | selection source _ | aggregation source _ => source.leaves
  | join left right _ _ => left.leaves ++ right.leaves

/-- The limits in a relation. -/
def limits (r : Relation) : List Limit :=
  r.content.filterMap Part.limit?

/-- The expressions of a relation are those of its content, in the same order. -/
theorem expressions_eq_filterMap (r : Relation) :
    r.expressions = r.content.filterMap Part.expr? := by
  induction r with
  | table t => rfl
  | selection source parts ih =>
    simp [expressions, content, Selection.expressions, Selection.content, ih, Part.expr?,
      Function.comp_def, List.filterMap_map]
  | aggregation source parts ih =>
    simp [expressions, content, Aggregation.expressions, Aggregation.content, ih, Part.expr?,
      Function.comp_def, List.filterMap_map]
  | join left right kind predicates ihleft ihright =>
    simp [expressions, content, ihleft, ihright, Part.expr?, Function.comp_def,
      List.filterMap_map]

/-! ## Calls -/

/-- A call that builds a relation from one that is there. -/
inductive Call where
  | filter (predicates : List Scalar)
  | select (projections : List Named)
  | orderBy (keys : List SortKey)
  | limit (count offset : UInt64)
  | aggregate (keys metrics : List Named)
  | join (right : Relation) (kind : JoinKind) (predicates : List Scalar)

namespace Call

/-- What a call is given, another relation apart. -/
def given : Call → List Part
  | filter predicates => predicates.map .predicate
  | select projections => projections.map .projection
  | orderBy keys => keys.map .sortKey
  | limit count offset => [.limit ⟨count, offset⟩]
  | aggregate keys metrics => keys.map .key ++ metrics.map .metric
  | join _ _ predicates => predicates.map .predicate

/-- The relation that a call joins. -/
def joined : Call → Option Relation
  | join right _ _ => some right
  | _ => none

/-- The expressions that a call is given. -/
def expressions (c : Call) : List Scalar :=
  c.given.filterMap Part.expr?

/-- The limits that a call is given. -/
def limits (c : Call) : List Limit :=
  c.given.filterMap Part.limit?

/-- All that a call brings into a relation: what the joined relation has, and what is given. -/
def brought (c : Call) : List Part :=
  c.joined.elim [] content ++ c.given

end Call

/-- The relation after a call. -/
def call (r : Relation) : Call → Relation
  | .filter predicates => r.filter predicates
  | .select projections => r.select projections
  | .orderBy keys => r.orderBy keys
  | .limit count offset => r.limit count offset
  | .aggregate keys metrics => r.aggregate keys metrics
  | .join right kind predicates => .join r right kind predicates

/-- The relation after calls, one after the other. -/
def build (r : Relation) (calls : List Call) : Relation :=
  calls.foldl call r

/-! ## What a call can do -/

/-- The outcomes of a call. Whatever node takes what the call is given, it keeps what it had. -/
inductive Grown (r : Relation) (c : Call) : Relation → Prop
  /-- A selection is put around the relation. -/
  | selected {parts : Selection} (hjoin : c.joined = none) (h : parts.content = c.given) :
      Grown r c (.selection r parts)
  /-- An aggregation is put around the relation. -/
  | grouped {parts : Aggregation} (hjoin : c.joined = none) (h : parts.content = c.given) :
      Grown r c (.aggregation r parts)
  /-- The outermost selection is changed. -/
  | selection {source : Relation} {parts parts' : Selection} (hr : r = .selection source parts)
      (hjoin : c.joined = none) (h : parts'.content.Perm (parts.content ++ c.given)) :
      Grown r c (.selection source parts')
  /-- The outermost aggregation is changed. -/
  | aggregation {source : Relation} {parts parts' : Aggregation}
      (hr : r = .aggregation source parts) (hjoin : c.joined = none)
      (h : parts'.content.Perm (parts.content ++ c.given)) :
      Grown r c (.aggregation source parts')
  /-- The outermost selection becomes part of an aggregation. -/
  | folded {source : Relation} {parts : Selection} {parts' : Aggregation}
      (hr : r = .selection source parts) (hjoin : c.joined = none)
      (h : parts'.content.Perm (parts.content ++ c.given)) :
      Grown r c (.aggregation source parts')
  /-- The relation becomes the left side of a join. -/
  | joined {right : Relation} {kind : JoinKind} {predicates : List Scalar}
      (hc : c = .join right kind predicates) : Grown r c (.join r right kind predicates)

section

variable {r : Relation}

theorem grown_filter (predicates : List Scalar) :
    Grown r (.filter predicates) (r.filter predicates) := by
  have haround : Grown r (.filter predicates) (.selection r { predicates }) :=
    .selected rfl (by simp [Selection.content, Call.given])
  cases r with
  | table t => exact haround
  | join left right kind on => exact haround
  | selection source parts =>
    unfold filter
    dsimp only
    split
    · refine .selection rfl rfl ?_
      simp only [Selection.content, Call.given, List.map_append, List.append_assoc]
      -- the new predicates stand in front of the sort keys and the limit
      rw [← List.append_assoc (parts.sortKeys.map _)]
      exact .append_left _ (.append_left _ List.perm_append_comm)
    · exact haround
  | aggregation source parts =>
    unfold filter
    dsimp only
    split
    · refine .aggregation rfl rfl ?_
      simp only [Aggregation.content, Call.given, List.map_append, List.append_assoc]
      rw [← List.append_assoc (parts.sortKeys.map _)]
      exact .append_left _ (.append_left _ (.append_left _ (.append_left _ List.perm_append_comm)))
    · exact haround

theorem grown_select (projections : List Named) :
    Grown r (.select projections) (r.select projections) := by
  have haround : Grown r (.select projections) (.selection r { projections }) :=
    .selected rfl (by simp [Selection.content, Call.given])
  cases r with
  | table t => exact haround
  | join left right kind on => exact haround
  | aggregation source parts => exact haround
  | selection source parts =>
    unfold select
    dsimp only
    split
    · next h =>
      rw [Bool.and_eq_true, List.isEmpty_iff] at h
      -- the projections are overwritten, and there are none
      have hparts : Selection.content { parts with projections } =
          projections.map .projection ++ parts.content := by
        simp [Selection.content, h.2]
      refine .selection rfl rfl ?_
      rw [hparts]
      exact List.perm_append_comm
    · exact haround

theorem grown_orderBy (keys : List SortKey) :
    Grown r (.orderBy keys) (r.orderBy keys) := by
  have haround : Grown r (.orderBy keys) (.selection r { sortKeys := keys }) :=
    .selected rfl (by simp [Selection.content, Call.given])
  cases r with
  | table t => exact haround
  | join left right kind on => exact haround
  | selection source parts =>
    unfold orderBy
    dsimp only
    split
    · next h =>
      refine .selection rfl rfl (.of_eq ?_)
      simp [Selection.content, Call.given, Option.isNone_iff_eq_none.1 h]
    · exact haround
  | aggregation source parts =>
    unfold orderBy
    dsimp only
    split
    · next h =>
      refine .aggregation rfl rfl (.of_eq ?_)
      simp [Aggregation.content, Call.given, Option.isNone_iff_eq_none.1 h]
    · exact haround

theorem grown_limit (count offset : UInt64) :
    Grown r (.limit count offset) (r.limit count offset) := by
  have haround : Grown r (.limit count offset) (.selection r { limit := some ⟨count, offset⟩ }) :=
    .selected rfl (by simp [Selection.content, Call.given])
  cases r with
  | table t => exact haround
  | join left right kind on => exact haround
  | selection source parts =>
    unfold limit
    dsimp only
    split
    · next h =>
      -- the limit is overwritten, and there is none
      refine .selection rfl rfl (.of_eq ?_)
      simp [Selection.content, Call.given, Option.isNone_iff_eq_none.1 h]
    · exact haround
  | aggregation source parts =>
    unfold limit
    dsimp only
    split
    · next h =>
      refine .aggregation rfl rfl (.of_eq ?_)
      simp [Aggregation.content, Call.given, Option.isNone_iff_eq_none.1 h]
    · exact haround

theorem grown_aggregate (keys metrics : List Named) :
    Grown r (.aggregate keys metrics) (r.aggregate keys metrics) := by
  have haround : Grown r (.aggregate keys metrics) (.aggregation r { keys, metrics }) :=
    .grouped rfl (by simp [Aggregation.content, Call.given])
  cases r with
  | table t => exact haround
  | join left right kind on => exact haround
  | aggregation source parts => exact haround
  | selection source parts =>
    unfold aggregate
    dsimp only
    split
    · next h =>
      simp only [Bool.and_eq_true, List.isEmpty_iff, Option.isNone_iff_eq_none] at h
      obtain ⟨⟨hprojections, hkeys⟩, hlimit⟩ := h
      refine .folded rfl rfl ?_
      -- of the selection only the predicates are taken over, and it has nothing else
      simp only [Selection.content, Aggregation.content, Call.given, hprojections, hkeys, hlimit,
        Option.toList_none, List.map_nil, List.append_nil, List.nil_append]
      exact List.perm_append_comm
    · exact haround

/-- What a call can do to a relation. -/
theorem grown_call (c : Call) : Grown r c (r.call c) := by
  cases c with
  | filter predicates => exact grown_filter predicates
  | select projections => exact grown_select projections
  | orderBy keys => exact grown_orderBy keys
  | limit count offset => exact grown_limit count offset
  | aggregate keys metrics => exact grown_aggregate keys metrics
  | join right kind predicates => exact .joined rfl

/-! ## Calls keep and add -/

/-- A relation that has grown has what it had and what was brought into it. -/
theorem Grown.content {c : Call} {r' : Relation} (h : Grown r c r') :
    r'.content.Perm (r.content ++ c.brought) := by
  cases h with
  | selected hjoin h | grouped hjoin h =>
    refine .of_eq ?_
    simp [Relation.content, Call.brought, hjoin, h]
  | selection hr hjoin h | aggregation hr hjoin h | folded hr hjoin h =>
    subst hr
    simp only [Relation.content, Call.brought, hjoin, Option.elim_none, List.nil_append,
      List.append_assoc]
    exact h.append_left _
  | joined hc =>
    subst hc
    refine .of_eq ?_
    simp [Relation.content, Call.brought, Call.joined, Call.given]

theorem Grown.leaves {c : Call} {r' : Relation} (h : Grown r c r') :
    r'.leaves = r.leaves ++ c.joined.elim [] Relation.leaves := by
  cases h with
  | selected hjoin _ | grouped hjoin _ => simp [Relation.leaves, hjoin]
  | selection hr hjoin _ | aggregation hr hjoin _ | folded hr hjoin _ =>
    subst hr
    simp [Relation.leaves, hjoin]
  | joined hc =>
    subst hc
    rfl

theorem content_call (c : Call) : (r.call c).content.Perm (r.content ++ c.brought) :=
  (grown_call c).content

theorem leaves_call (c : Call) :
    (r.call c).leaves = r.leaves ++ c.joined.elim [] leaves :=
  (grown_call c).leaves

theorem expressions_call (c : Call) :
    (r.call c).expressions.Perm
      (r.expressions ++ c.joined.elim [] expressions ++ c.expressions) := by
  have hjoined : c.joined.elim [] expressions =
      (c.joined.elim [] Relation.content).filterMap Part.expr? := by
    cases c.joined with
    | none => rfl
    | some right => exact right.expressions_eq_filterMap
  rw [expressions_eq_filterMap, expressions_eq_filterMap, hjoined, Call.expressions,
    ← List.filterMap_append, ← List.filterMap_append, List.append_assoc]
  exact (content_call c).filterMap _

theorem limits_call (c : Call) :
    (r.call c).limits.Perm (r.limits ++ c.joined.elim [] limits ++ c.limits) := by
  have hjoined : c.joined.elim [] limits =
      (c.joined.elim [] Relation.content).filterMap Part.limit? := by
    cases c.joined <;> rfl
  rw [limits, limits, hjoined, Call.limits, ← List.filterMap_append, ← List.filterMap_append,
    List.append_assoc]
  exact (content_call c).filterMap _

/-- After calls a relation has what it had and what each of them brought. -/
theorem content_build (r : Relation) (calls : List Call) :
    (r.build calls).content.Perm (r.content ++ calls.flatMap Call.brought) := by
  induction calls generalizing r with
  | nil => simp [build]
  | cons c rest ih =>
    have hstep : ((r.call c).content ++ rest.flatMap Call.brought).Perm
        (r.content ++ c.brought ++ rest.flatMap Call.brought) :=
      (content_call c).append_right _
    rw [List.flatMap_cons, ← List.append_assoc]
    exact (ih (r.call c)).trans hstep

theorem leaves_build (r : Relation) (calls : List Call) :
    (r.build calls).leaves = r.leaves ++ calls.flatMap fun c => c.joined.elim [] leaves := by
  induction calls generalizing r with
  | nil => simp [build]
  | cons c rest ih =>
    have hrest : (r.build (c :: rest)).leaves = ((r.call c).build rest).leaves := rfl
    rw [hrest, ih, leaves_call, List.flatMap_cons, List.append_assoc]

end

end Relation

/-- Nothing is lost or duplicated while a relation is built. After a call the expressions are those
that were there, those of the joined relation and those that were given, in whatever order; the
tables are those that were there and then those of the joined relation, in order; and all limits are
there with their count and offset. After any sequence of calls each projection, predicate, key,
metric, sort key and limit that was there or was ever given is in the relation as often as it was
given, as what it was given and with its name or direction. -/
theorem building_keeps_content (r : Relation) :
    (∀ c : Relation.Call,
      (r.call c).expressions.Perm
        (r.expressions ++ c.joined.elim [] Relation.expressions ++ c.expressions) ∧
      (r.call c).leaves = r.leaves ++ c.joined.elim [] Relation.leaves ∧
      (r.call c).limits.Perm (r.limits ++ c.joined.elim [] Relation.limits ++ c.limits)) ∧
    (∀ calls : List Relation.Call,
      (r.build calls).content.Perm (r.content ++ calls.flatMap Relation.Call.brought) ∧
      (r.build calls).leaves =
        r.leaves ++ calls.flatMap fun c => c.joined.elim [] Relation.leaves) := by
  refine ⟨fun c => ⟨?_, ?_, ?_⟩, fun calls => ⟨?_, ?_⟩⟩
  · exact Relation.expressions_call c
  · exact Relation.leaves_call c
  · exact Relation.limits_call c
  · exact r.content_build calls
  · exact r.leaves_build calls

end TransactSql
