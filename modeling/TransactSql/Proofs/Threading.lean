import TransactSql.Compile.Compiled
import TransactSql.Proofs.Lowering

/-!
# A scope threaded through a statement

Every clause of a statement is lowered in the scope that the clauses before it leave behind. What
comes of it can be said without threading: the aliases are those of the tables that the source
registers, and the parameters that are recorded are those that are met, each with the value that is
known for it. `Lower.lower` and `Statement.ofQuery` say it so, as computations that are given the
aliases and note names (`Lowering`).

That the two agree is shown step by step. Recording and lowering do in every scope what they do
without one (`lower_realizes`, by induction on the expression), and so do the clauses. Registering
changes the aliases, so the statement is followed from its source on (`query_comes`), up to what is
compiled (`compile_eq`). No step reads a value: values come in where a parameter is recorded, and
nothing that was recorded is looked at before the end.
-/

namespace TransactSql

open Sql (Expr Select SelectItem JoinClause OrderItem)

/-- Notes parameters in a table: each gets its value, or none. -/
def recordParams (params : Params) (recorded : NameTable (Option Value)) (noted : List String) :
    NameTable (Option Value) :=
  noted.foldl (fun table name => table.insert name (params.get? name)) recorded

/-! ## Lowering with given aliases -/

namespace Lower

mutual

/-- Lowers an expression for a role. -/
def lower (aliases : Aliases) (role : Role) : Scalar → Lowering Expr
  | .literal value type => .ofExcept (literalInRole role value type)
  | .column table name type => do
    Lowering.ofExcept (checkRole role (.column table name type))
    let e ← Lowering.ofExcept (column aliases table name type)
    return inRole role false e
  | .param name type => do
    Lowering.ofExcept (checkRole role (.param name type))
    Lowering.note name
    return inRole role false (.param name)
  | .op kind args type filter => do
    let node : Node := ⟨kind, args, type, filter⟩
    if !kind.isPredicate then Lowering.ofExcept (checkRole role node.toScalar)
    let handler ← Lowering.ofExcept (Registry.server.handlerFor node)
    Lowering.ofExcept (checkNode node handler)
    let operands ← lowerOperands aliases handler 0 args
    let condition ← lowerFilter aliases handler filter
    let e ← Lowering.ofExcept (assemble node handler operands condition)
    return inRole role kind.isPredicate e

/-- Lowers operands from left to right, the first of them at a position. -/
def lowerOperands (aliases : Aliases) (handler : Handler) (position : Nat) :
    List Scalar → Lowering (List Expr)
  | [] => pure []
  | arg :: rest => do
    let x ← lower aliases (operandRole handler position) arg
    let xs ← lowerOperands aliases handler (position + 1) rest
    return x :: xs

/-- Lowers the filter of a node whose handler reads it; any other filter is passed over. -/
def lowerFilter (aliases : Aliases) (handler : Handler) : Option Scalar → Lowering (Option Expr)
  | none => pure none
  | some filter =>
    if readsFilter handler then do
      let condition ← lower aliases .condition filter
      return some condition
    else pure none

end

end Lower

/-! ## Statements with given aliases -/

namespace Statement

/-- The tables of a statement and the clauses that bring them in. -/
structure Source where
  aliases : Aliases
  select : Select

/-- The conjunction of join predicates, none where there are none. -/
def conjunction (aliases : Aliases) (predicates : List Scalar) : Lowering (Option Expr) :=
  predicates.foldlM
    (fun combined p => do
      let condition ← Lower.lower aliases .condition p
      match combined with
      | some existing => return some (.binary existing.nested .and condition.nested)
      | none => return some condition)
    none

/-- The source of a statement: its tables, registered from left to right, and its joins. -/
def source : Relation → Lowering Source
  | .table t => do
    let aliases ← Lowering.ofExcept (Aliases.empty.register t.name)
    return ⟨aliases, { source := some (tableRef t.name Aliases.empty.next) }⟩
  | .join left right kind predicates => do
    let left ← source left
    match right with
    | .table t => do
      let aliases ← Lowering.ofExcept (left.aliases.register t.name)
      let condition ← conjunction aliases predicates
      let clause : JoinClause := ⟨joinType kind, tableRef t.name left.aliases.next, condition⟩
      return ⟨aliases, left.select.join clause⟩
    | _ => .invalid .rightNotTable
  | .selection .. | .aggregation .. => .invalid .nestedSource

/-- An item of the select list. A column that has the name already gets no alias. -/
def item (aliases : Aliases) (n : Named) : Lowering SelectItem := do
  let expr ← Lower.lower aliases .value n.expr
  return { expr, asName := if isColumnNamed n.expr n.name then none else some n.name }

/-- A key of the order. -/
def orderItem (aliases : Aliases) (key : SortKey) : Lowering OrderItem := do
  let expr ← Lower.lower aliases .value key.expr
  return ⟨expr, key.descending⟩

/-- Adds conditions on rows, one after the other. -/
def restrictAll (aliases : Aliases) (select : Select) (predicates : List Scalar) :
    Lowering Select :=
  predicates.foldlM (fun s p => do return s.restrict (← Lower.lower aliases .condition p)) select

/-- Adds conditions on groups, one after the other. -/
def restrictAllGroups (aliases : Aliases) (select : Select) (predicates : List Scalar) :
    Lowering Select :=
  predicates.foldlM
    (fun s p => do return s.restrictGroups (← Lower.lower aliases .condition p)) select

/-- The statement of a selection of a source. -/
def selection (src : Source) (parts : Selection) : Lowering Select := do
  let items ←
    if parts.projections.isEmpty then pure (allColumns src.aliases)
    else parts.projections.mapM (item src.aliases)
  let select ← restrictAll src.aliases { src.select with items } parts.predicates
  let orderBy ← parts.sortKeys.mapM (orderItem src.aliases)
  return page { select with orderBy } parts.limit

/-- The statement of an aggregation of a source. -/
def aggregation (src : Source) (parts : Aggregation) : Lowering Select := do
  let select ← restrictAll src.aliases src.select parts.predicates
  let keys ← parts.keys.mapM (item src.aliases)
  let metrics ← parts.metrics.mapM (item src.aliases)
  let grouped := { select with items := keys ++ metrics, groupBy := keys.map (·.expr) }
  let select ← restrictAllGroups src.aliases grouped parts.having
  let orderBy ← parts.sortKeys.mapM (orderItem src.aliases)
  return page { select with orderBy } parts.limit

/-- The statement of a relation. -/
def ofRelation : Relation → Lowering Select
  | .selection r parts => do
    selection (← source r) parts
  | .aggregation r parts => do
    if parts.keys.isEmpty && parts.metrics.isEmpty then .invalid .emptyAggregation
    else aggregation (← source r) parts
  | r => do
    let s ← source r
    return { s.select with items := allColumns s.aliases }

/-- The statement of a scalar. -/
def ofScalar (e : Scalar) (name : String) : Lowering Select :=
  match e.tables with
  | [] => do
    let expr ← Lower.lower Aliases.empty .value e
    return { items := [⟨expr, some name⟩] }
  | [table] => do
    let aliases ← Lowering.ofExcept (Aliases.empty.register table)
    let expr ← Lower.lower aliases .value e
    return {
      items := [⟨expr, some name⟩]
      source := some (tableRef table Aliases.empty.next) }
  | tables => .invalid (.severalTables tables)

/-- The statement of a query to which the rules have been applied. -/
def ofQuery : Query → Lowering Select
  | .scalar e name => ofScalar e (name.getD Query.defaultName)
  | .relation r => ofRelation r

end Statement

/-! ## Runs -/

variable {α β : Type}

/-- Recording in two goes is recording at once. -/
theorem recordParams_append (params : Params) (table : NameTable (Option Value))
    (noted noted' : List String) :
    recordParams params table (noted ++ noted') =
      recordParams params (recordParams params table noted) noted' :=
  List.foldl_append

namespace Scope

/-- The scope with the aliases of some tables. -/
def withAliases (s : Scope) (aliases : Aliases) : Scope :=
  { s with aliases }

/-- The scope in which parameters are recorded. -/
def recordAll (s : Scope) (names : List String) : Scope :=
  { s with recorded := recordParams s.params s.recorded names }

/-- Runs a computation that is given the aliases of a scope: what it notes is recorded. -/
def run (s : Scope) (x : Lowering α) : Except CompileError α × Scope :=
  (x.result, s.recordAll x.noted)

theorem recordAll_recordAll (s : Scope) (names names' : List String) :
    (s.recordAll names).recordAll names' = s.recordAll (names ++ names') := by
  unfold recordAll
  rw [recordParams_append]

end Scope

namespace InScope

theorem exec_register (table : TableName) (s : Scope) :
    s.exec (register table) = s.register table := rfl

/-- The second part of a sequence starts in the scope that the first part leaves behind. -/
theorem exec_bind (x : InScope α) (f : α → InScope β) (s : Scope) :
    s.exec (x >>= f) =
      match s.exec x with
      | (.ok a, t) => t.exec (f a)
      | (.error e, t) => (.error e, t) := by
  unfold Scope.exec
  rw [ExceptT.run_bind, StateT.run_bind]
  obtain ⟨result, t⟩ := x.run.run s
  cases result <;> rfl

/-- In every scope with the given aliases a computation does what it does without a scope. -/
def Realizes (aliases : Aliases) (x : InScope α) (y : Lowering α) : Prop :=
  ∀ s : Scope, s.aliases = aliases → s.exec x = s.run y

namespace Realizes

variable {aliases : Aliases}

theorem exec_fst {s : Scope} {x : InScope α} {y : Lowering α} (h : Realizes s.aliases x y) :
    (s.exec x).1 = y.result := by
  rw [h s rfl]
  rfl

theorem pure (a : α) : Realizes aliases (pure a) (pure a) :=
  fun _ _ => rfl

theorem lift (x : Except CompileError α) : Realizes aliases (liftM x) (.ofExcept x) :=
  fun _ _ => rfl

theorem record (name : String) : Realizes aliases (record name) (.note name) := by
  intro s _
  show s.record name = _
  unfold Scope.record checkParamName Scope.run Lowering.note
  by_cases h : isParamName name
  · simp [h, Scope.recordAll, recordParams]
  · simp [h, Scope.recordAll, recordParams, Lowering.invalid, Lowering.fail]

/-- Sequences: lowering changes no alias, so the second part has the aliases of the first. -/
theorem bind {x : InScope α} {y : Lowering α} {f : α → InScope β} {g : α → Lowering β}
    (hx : Realizes aliases x y) (hf : ∀ a, Realizes aliases (f a) (g a)) :
    Realizes aliases (x >>= f) (y >>= g) := by
  intro s hs
  rw [exec_bind, hx s hs]
  unfold Scope.run
  cases hy : y.result with
  | error e => rw [Lowering.bind_of_error hy]
  | ok a =>
    rw [Lowering.bind_of_ok hy]
    dsimp only
    rw [hf a (s.recordAll y.noted) hs, Scope.run, Scope.recordAll_recordAll]

/-- A look at the scope shows the aliases, whatever else is in it. -/
theorem get_bind {f : Scope → InScope β} {y : Lowering β}
    (hf : ∀ s : Scope, s.aliases = aliases → Realizes aliases (f s) y) :
    Realizes aliases (get >>= f) y :=
  fun s hs => hf s hs s hs

theorem mapM {f : α → InScope β} {g : α → Lowering β} (hf : ∀ a, Realizes aliases (f a) (g a))
    (l : List α) : Realizes aliases (l.mapM f) (l.mapM g) := by
  induction l with
  | nil => exact pure _
  | cons a rest ih =>
    rw [List.mapM_cons, List.mapM_cons]
    exact (hf a).bind fun b => ih.bind fun bs => pure _

theorem foldlM {f : β → α → InScope β} {g : β → α → Lowering β}
    (hf : ∀ b a, Realizes aliases (f b a) (g b a)) (l : List α) (b : β) :
    Realizes aliases (l.foldlM f b) (l.foldlM g b) := by
  induction l generalizing b with
  | nil => exact pure b
  | cons a rest ih =>
    rw [List.foldlM_cons, List.foldlM_cons]
    exact (hf b a).bind fun b => ih b

end Realizes

/-! ## Expressions -/

section

variable (aliases : Aliases)

mutual

/-- Lowering in a scope is lowering with its aliases: whatever is recorded on the way has no
influence. -/
theorem lower_realizes (role : Role) (e : Scalar) :
    Realizes aliases (lower role e) (Lower.lower aliases role e) := by
  cases e with
  | literal value type => exact .lift _
  | column table name type =>
    unfold lower Lower.lower
    refine .bind (.lift _) fun _ => .get_bind fun s hs => ?_
    rw [hs]
    exact .bind (.lift _) fun _ => .pure _
  | param name type =>
    unfold lower Lower.lower
    exact .bind (.lift _) fun _ => .bind (.record name) fun _ => .pure _
  | op kind args type filter =>
    unfold lower Lower.lower
    have hnode := Realizes.bind (.lift (Registry.server.handlerFor ⟨kind, args, type, filter⟩))
      fun handler => .bind (.lift (Lower.checkNode ⟨kind, args, type, filter⟩ handler))
      fun _ => .bind (lowerOperands_realizes handler 0 args)
      fun operands => .bind (lowerFilter_realizes handler filter)
      fun condition => .bind
        (.lift (Lower.assemble ⟨kind, args, type, filter⟩ handler operands condition))
      fun e => .pure (Lower.inRole role kind.isPredicate e)
    dsimp only
    split
    · exact .bind (.lift _) fun _ => hnode
    · exact hnode

theorem lowerOperands_realizes (handler : Handler) (position : Nat) (args : List Scalar) :
    Realizes aliases (lowerOperands handler position args)
      (Lower.lowerOperands aliases handler position args) := by
  cases args with
  | nil => exact .pure []
  | cons arg rest =>
    unfold lowerOperands Lower.lowerOperands
    refine .bind (lower_realizes _ arg) fun _ => ?_
    exact .bind (lowerOperands_realizes handler (position + 1) rest) fun _ => .pure _

theorem lowerFilter_realizes (handler : Handler) (filter : Option Scalar) :
    Realizes aliases (lowerFilter handler filter) (Lower.lowerFilter aliases handler filter) := by
  cases filter with
  | none => exact .pure none
  | some filter =>
    unfold lowerFilter Lower.lowerFilter
    split
    · exact .bind (lower_realizes .condition filter) fun _ => .pure _
    · exact .pure none

end

/-! ## Clauses -/

theorem conjunction_realizes (predicates : List Scalar) :
    Realizes aliases (conjunction predicates) (Statement.conjunction aliases predicates) := by
  refine .foldlM (fun combined p => .bind (lower_realizes aliases .condition p) fun _ => ?_) _ _
  cases combined with
  | none => exact .pure _
  | some existing => exact .pure _

theorem item_realizes (n : Named) : Realizes aliases (item n) (Statement.item aliases n) :=
  .bind (lower_realizes aliases .value n.expr) fun _ => .pure _

theorem orderItem_realizes (key : SortKey) :
    Realizes aliases (orderItem key) (Statement.orderItem aliases key) :=
  .bind (lower_realizes aliases .value key.expr) fun _ => .pure _

theorem restrictAll_realizes (select : Select) (predicates : List Scalar) :
    Realizes aliases (restrictAll select predicates)
      (Statement.restrictAll aliases select predicates) :=
  .foldlM (fun _ p => .bind (lower_realizes aliases .condition p) fun _ => .pure _) _ _

theorem restrictAllGroups_realizes (select : Select) (predicates : List Scalar) :
    Realizes aliases (restrictAllGroups select predicates)
      (Statement.restrictAllGroups aliases select predicates) :=
  .foldlM (fun _ p => .bind (lower_realizes aliases .condition p) fun _ => .pure _) _ _

end

end InScope

/-- Lowering in a scope: the result is that of lowering with its aliases, and what is noted on the
way is recorded. -/
theorem Scope.lower_eq (s : Scope) (role : Role) (e : Scalar) :
    s.lower role e = s.run (Lower.lower s.aliases role e) :=
  InScope.lower_realizes s.aliases role e s rfl

theorem Scope.lower_fst (s : Scope) (role : Role) (e : Scalar) :
    (s.lower role e).1 = (Lower.lower s.aliases role e).result := by
  rw [s.lower_eq]
  rfl

theorem Scope.lower_snd (s : Scope) (role : Role) (e : Scalar) :
    (s.lower role e).2 = s.recordAll (Lower.lower s.aliases role e).noted := by
  rw [s.lower_eq]
  rfl

/-- Recording a parameter is a run of noting it. -/
theorem Scope.record_eq (s : Scope) (name : String) :
    s.record name = s.run (Lowering.note name) :=
  InScope.Realizes.record name s rfl

/-! ## Statements -/

namespace InScope

/-- What a computation comes to in every scope with the given aliases. Where it has a result without
a scope it has one that is related to it, and so are the aliases in the end; otherwise it fails for
the same reason. What is noted is recorded. -/
def Comes (aliases : Aliases) (x : InScope α) (y : Lowering β) (R : β → α → Aliases → Prop) :
    Prop :=
  ∀ s : Scope, s.aliases = aliases →
    (∃ b a after, y.result = .ok b ∧ R b a after ∧
      s.exec x = (.ok a, (s.withAliases after).recordAll y.noted)) ∨
    (∃ e after, y.result = .error e ∧
      s.exec x = (.error e, (s.withAliases after).recordAll y.noted))

theorem Realizes.comes {aliases : Aliases} {x : InScope α} {y : Lowering α}
    (h : Realizes aliases x y) : Comes aliases x y fun b a after => a = b ∧ after = aliases := by
  rintro s rfl
  have hrun := h s rfl
  unfold Scope.run at hrun
  cases hy : y.result with
  | ok a => exact .inl ⟨a, a, s.aliases, rfl, ⟨rfl, rfl⟩, by rw [hrun, hy]; rfl⟩
  | error e => exact .inr ⟨e, s.aliases, rfl, by rw [hrun, hy]; rfl⟩

namespace Comes

variable {γ δ : Type} {aliases : Aliases}

theorem pure {b : β} {a : α} {R : β → α → Aliases → Prop} (h : R b a aliases) :
    Comes aliases (pure a) (pure b) R := by
  rintro s rfl
  exact .inl ⟨b, a, s.aliases, rfl, h, rfl⟩

/-- Registering is the step that changes aliases. -/
theorem register (aliases : Aliases) (table : TableName) :
    Comes aliases (register table) (.ofExcept (aliases.register table))
      fun b a after => a = aliases.next ∧ after = b := by
  rintro s rfl
  cases h : s.aliases.register table with
  | ok aliases =>
    refine .inl ⟨aliases, _, aliases, rfl, ⟨rfl, rfl⟩, ?_⟩
    rw [exec_register, Scope.register, h]
    rfl
  | error e =>
    refine .inr ⟨e, s.aliases, rfl, ?_⟩
    rw [exec_register, Scope.register, h]
    rfl

/-- Sequences: the second part begins with the aliases that the first part leaves behind. -/
theorem bind {x : InScope α} {y : Lowering β} {R : β → α → Aliases → Prop} {f : α → InScope γ}
    {g : β → Lowering δ} {R' : δ → γ → Aliases → Prop} (hx : Comes aliases x y R)
    (hf : ∀ b a after, R b a after → Comes after (f a) (g b) R') :
    Comes aliases (x >>= f) (y >>= g) R' := by
  intro s hs
  rw [exec_bind]
  rcases hx s hs with ⟨b, a, after, hy, hR, hrun⟩ | ⟨e, after, hy, hrun⟩
  · rw [hrun, Lowering.bind_of_ok hy]
    rcases hf b a after hR ((s.withAliases after).recordAll y.noted) rfl with
      ⟨d, c, last, hg, hR', hlast⟩ | ⟨e, last, hg, hlast⟩
    · refine .inl ⟨d, c, last, hg, hR', hlast.trans ?_⟩
      exact congrArg _ (((s.withAliases last).recordAll_recordAll _ _))
    · refine .inr ⟨e, last, hg, hlast.trans ?_⟩
      exact congrArg _ (((s.withAliases last).recordAll_recordAll _ _))
  · rw [hrun, Lowering.bind_of_error hy]
    exact .inr ⟨e, after, rfl, rfl⟩

theorem imp {x : InScope α} {y : Lowering β} {R R' : β → α → Aliases → Prop}
    (h : Comes aliases x y R) (himp : ∀ b a after, R b a after → R' b a after) :
    Comes aliases x y R' := by
  intro s hs
  rcases h s hs with ⟨b, a, after, hy, hR, hrun⟩ | herror
  · exact .inl ⟨b, a, after, hy, himp b a after hR, hrun⟩
  · exact .inr herror

theorem invalid (aliases : Aliases) (shape : InvalidShape) (R : β → α → Aliases → Prop) :
    Comes aliases (invalid shape) (.invalid shape) R :=
  fun s _ => .inr ⟨_, s.aliases, rfl, rfl⟩

end Comes

/-- A source leaves behind the aliases of its tables. -/
theorem source_comes (r : Relation) :
    Comes .empty (source r) (Statement.source r)
      fun src select after => select = src.select ∧ after = src.aliases := by
  induction r with
  | table t =>
    refine .bind (.register .empty t.name) ?_
    rintro _ _ aliases ⟨rfl, rfl⟩
    exact .pure ⟨rfl, rfl⟩
  | join left right kind predicates ihleft _ =>
    refine .bind ihleft ?_
    rintro src _ _ ⟨rfl, rfl⟩
    cases right with
    | table t =>
      refine .bind (.register src.aliases t.name) ?_
      rintro _ _ aliases ⟨rfl, rfl⟩
      refine .bind (conjunction_realizes aliases predicates).comes ?_
      rintro condition _ _ ⟨rfl, rfl⟩
      exact .pure ⟨rfl, rfl⟩
    | join | selection | aggregation => exact .invalid _ _ _
  | selection | aggregation => exact .invalid _ _ _

/-- The clauses after the source are lowered with the aliases of its tables. -/
theorem source_bind_comes {f : Select → InScope Select} {g : Statement.Source → Lowering Select}
    (r : Relation) (h : ∀ src, Realizes src.aliases (f src.select) (g src)) :
    Comes .empty (source r >>= f) (Statement.source r >>= g) fun b a _ => a = b := by
  refine .bind (source_comes r) ?_
  rintro src _ _ ⟨rfl, rfl⟩
  exact (h src).comes.imp fun _ _ _ hsame => hsame.1

theorem selection_comes (r : Relation) (parts : Selection) :
    Comes .empty (selection r parts) (Statement.ofRelation (.selection r parts))
      fun b a _ => a = b := by
  refine source_bind_comes r fun src => ?_
  unfold Statement.selection
  have hrest := fun items : List SelectItem =>
    Realizes.bind (restrictAll_realizes src.aliases { src.select with items } parts.predicates)
      fun select => .bind (.mapM (orderItem_realizes src.aliases) parts.sortKeys)
      fun orderBy => .pure (Statement.page { select with orderBy } parts.limit)
  dsimp only
  split
  · refine .get_bind fun s hs => ?_
    rw [hs]
    exact hrest _
  · exact .bind (.mapM (item_realizes src.aliases) parts.projections) hrest

theorem aggregation_comes (r : Relation) (parts : Aggregation) :
    Comes .empty (aggregation r parts)
      (do Statement.aggregation (← Statement.source r) parts) fun b a _ => a = b := by
  refine source_bind_comes r fun src => ?_
  unfold Statement.aggregation
  refine .bind (restrictAll_realizes _ _ _) fun select => ?_
  refine .bind (.mapM (item_realizes _) _) fun keys => ?_
  refine .bind (.mapM (item_realizes _) _) fun metrics => ?_
  refine .bind (restrictAllGroups_realizes _ _ _) fun select => ?_
  exact .bind (.mapM (orderItem_realizes _) _) fun orderBy => .pure _

theorem relation_comes (r : Relation) :
    Comes .empty (relation r) (Statement.ofRelation r) fun b a _ => a = b := by
  cases r with
  | selection r parts => exact selection_comes r parts
  | aggregation r parts =>
    by_cases h : (parts.keys.isEmpty && parts.metrics.isEmpty) = true
    · simp only [relation, Statement.ofRelation, if_pos h]
      exact .invalid _ _ _
    · simp only [relation, Statement.ofRelation, if_neg h]
      exact aggregation_comes r parts
  | table t =>
    refine source_bind_comes (.table t) fun src => .get_bind fun s hs => ?_
    rw [hs]
    exact .pure _
  | join left right kind predicates =>
    refine source_bind_comes (.join left right kind predicates) fun src => .get_bind fun s hs => ?_
    rw [hs]
    exact .pure _

theorem scalar_comes (e : Scalar) (name : String) :
    Comes .empty (scalar e name) (Statement.ofScalar e name) fun b a _ => a = b := by
  unfold scalar Statement.ofScalar
  rcases e.tables with _ | ⟨table, _ | ⟨other, rest⟩⟩
  · exact (Realizes.bind (lower_realizes .empty .value e) fun _ => .pure _).comes.imp
      fun _ _ _ hsame => hsame.1
  · refine .bind (.register .empty table) ?_
    rintro _ _ aliases ⟨rfl, rfl⟩
    exact (Realizes.bind (lower_realizes aliases .value e) fun _ => .pure _).comes.imp
      fun _ _ _ hsame => hsame.1
  · exact .invalid _ _ _

theorem query_comes (q : Query) :
    Comes .empty (query q) (Statement.ofQuery q) fun b a _ => a = b := by
  cases q with
  | scalar e name => exact scalar_comes e _
  | relation r => exact relation_comes r

end InScope

/-- Compiling without a scope: the statement with given aliases, and the parameters that it notes
with their values. -/
theorem compile_eq (query : Query) (params : Params) :
    compile query params =
      (Statement.ofQuery (query.normalize .base)).result.map fun select =>
        ⟨select, recordParams params .empty (Statement.ofQuery (query.normalize .base)).noted⟩ := by
  unfold compile
  rcases InScope.query_comes (query.normalize .base) (.new params) rfl with
    ⟨select, _, after, hresult, rfl, hrun⟩ | ⟨e, after, hresult, hrun⟩
  · rw [hrun, hresult]
    rfl
  · rw [hrun, hresult]
    rfl

/-- Compiling succeeds when the statement without a scope has a result. -/
theorem compile_eq_ok {query : Query} {params : Params} {c : Compiled} :
    compile query params = .ok c ↔
      (Statement.ofQuery (query.normalize .base)).result = .ok c.select ∧
      c.params = recordParams params .empty (Statement.ofQuery (query.normalize .base)).noted := by
  obtain ⟨select, table⟩ := c
  rw [compile_eq]
  cases (Statement.ofQuery (query.normalize .base)).result with
  | error e => simp [Except.map]
  | ok s => simp [Except.map, eq_comm]

/-- Compiling fails when the statement without a scope fails, and for the same reason. -/
theorem compile_eq_error {query : Query} {params : Params} {e : CompileError} :
    compile query params = .error e ↔
      (Statement.ofQuery (query.normalize .base)).result = .error e := by
  rw [compile_eq]
  cases (Statement.ofQuery (query.normalize .base)).result with
  | error e => simp [Except.map]
  | ok s => simp [Except.map]

end TransactSql
