import Mathlib.Data.List.Forall2
import TransactSql.Proofs.Lowered
import TransactSql.Proofs.Normalization
import TransactSql.Proofs.Subterms

/-!
# Where references come from

A lowered expression refers to columns and parameters. `Lower.traces_lower` says where they come
from: reference by reference, in the order of writing, a column of the lowered expression has the
name of a column of the expression and the alias of its table, a parameter is a parameter, and the
parameters noted on the way are exactly those that are written.

Lowering does not keep the order of operands, and not all of an expression is lowered.
`Operation.arrange` says which operations put what where. It takes `between` as the two
comparisons that are written for it, so the references of an expression are those of its normal
form (`Scalar.references_normalize`).
-/

open Relation (ReflTransGen)

namespace TransactSql

open Sql (Expr)

/-! ## References of expressions -/

/-- How an operation writes what its operands and its filter hold: a search writes what it looks
for first, a filter stands before the operand of its reduction and is left out of any other
operation, and `between` writes its first operand twice. -/
def Operation.arrange {α : Type} (kind : Operation) (operands : List (List α))
    (filter : List α) : List α :=
  match kind, operands with
  | .find, haystack :: needle :: start => needle ++ haystack ++ start.flatten
  | .between, [x, lo, hi] => x ++ lo ++ (x ++ hi)
  | kind, operands => (if kind.isReduction then filter else []) ++ operands.flatten

namespace Scalar

mutual

/-- The columns and the parameters in an expression, in the order in which they are written. -/
def references : Scalar → List Scalar
  | column table name type => [column table name type]
  | param name type => [param name type]
  | literal .. => []
  | op kind args _ filter => kind.arrange (referencesOfArgs args) (referencesOfFilter filter)

/-- The references of each operand. -/
def referencesOfArgs : List Scalar → List (List Scalar)
  | [] => []
  | arg :: rest => arg.references :: referencesOfArgs rest

/-- The references of a filter. -/
def referencesOfFilter : Option Scalar → List Scalar
  | none => []
  | some filter => filter.references

end

theorem references_op (kind : Operation) (args : List Scalar) (type : Option LogicalType)
    (filter : Option Scalar) :
    (op kind args type filter).references =
      kind.arrange (args.map references) (filter.elim [] references) := by
  have hargs : ∀ args, referencesOfArgs args = args.map references := by
    intro args
    induction args with
    | nil => rfl
    | cons arg rest ih => rw [referencesOfArgs, ih, List.map_cons]
  have hfilter : referencesOfFilter filter = filter.elim [] references := by
    cases filter <;> rfl
  rw [references, hargs, hfilter]

/-- A step moves and copies operands as they are written, and drops what is not written. -/
theorem references_eq_of_step {e e' : Scalar} (h : Step e e') : e'.references = e.references := by
  induction h with
  | between x lo hi type filter =>
    show (Scalar.and (x.atLeast lo) (x.atMost hi)).references = _
    simp [Scalar.and, atLeast, atMost, apply, references_op, Operation.arrange,
      Operation.isReduction]
  | notNull x type filter =>
    show (Scalar.not (apply .isNull [x])).references = _
    simp [Scalar.not, apply, references_op, Operation.arrange, Operation.isReduction]
  | ifNull x y type filter =>
    show (apply .coalesce [x, y]).references = _
    simp [apply, references_op, Operation.arrange, Operation.isReduction]
  | operand before after _ ih => simp only [references_op, List.map_append, List.map_cons, ih]
  | filter _ ih => simp only [references_op, Option.elim_some, ih]

theorem references_eq_of_steps {e e' : Scalar} (h : ReflTransGen Step e e') :
    e'.references = e.references := by
  induction h with
  | refl => rfl
  | tail _ hstep ih => exact (references_eq_of_step hstep).trans ih

/-- Applying the base rules changes no references. -/
theorem references_normalize (e : Scalar) :
    (RuleSet.base.normalize e).references = e.references := by
  rw [RuleSet.normalize_eq_normalForm]
  exact references_eq_of_steps (steps_normalForm e)

end Scalar

/-! ## Resolved references -/

/-- A reference of a lowered expression and the reference that it is for: a column has the alias of
its table, which is the number of the table in a list, and a parameter is as it was, under a name
that can follow an at sign. -/
inductive Resolves (tables : List TableName) : Scalar → Expr → Prop
  | column {table : TableName} {number : Nat} (h : tables[number]? = some table) (name : String)
      (type : Option LogicalType) :
      Resolves tables (.column table name type) (.column (some (Aliases.name number)) name)
  | param {name : String} (h : isParamName name) (type : LogicalType) :
      Resolves tables (.param name type) (.param name)

/-- Further tables change no alias. -/
theorem Resolves.mono {tables tables' : List TableName} (h : tables <+: tables') {e : Scalar}
    {x : Expr} (hx : Resolves tables e x) : Resolves tables' e x := by
  cases hx with
  | column hnumber name type =>
    obtain ⟨rest, rfl⟩ := h
    refine .column ?_ name type
    rw [List.getElem?_append_left (List.getElem?_eq_some_iff.1 hnumber).1, hnumber]
  | param hname type => exact .param hname type

/-- A computation whose result has the references `targets`: they resolve the references
`origins`, one by one, and its notes are the parameters among them. -/
structure Lowering.Traces {α : Type} (l : Lowering α) (tables : List TableName)
    (origins : List Scalar) (targets : List Expr) : Prop where
  resolves : List.Forall₂ (Resolves tables) origins targets
  noted : ∀ name, name ∈ l.noted ↔ Expr.param name ∈ targets

/-- Every reference of the result comes from one that it resolves. -/
theorem Lowering.Traces.exists_origin {α : Type} {l : Lowering α} {tables : List TableName}
    {origins : List Scalar} {targets : List Expr} (h : l.Traces tables origins targets) {x : Expr}
    (hx : x ∈ targets) : ∃ e ∈ origins, Resolves tables e x := by
  have hresolves := h.resolves
  clear h
  induction hresolves with
  | nil => cases hx
  | cons hey _ ih =>
    rcases List.mem_cons.1 hx with rfl | hx
    · exact ⟨_, List.mem_cons_self, hey⟩
    · obtain ⟨e, he, hex⟩ := ih hx
      exact ⟨e, List.mem_cons_of_mem _ he, hex⟩

/-! ## Handlers -/

/-- Arranging keeps related references related. -/
theorem Operation.forall₂_arrange {α β : Type} {R : α → β → Prop} (kind : Operation)
    {operands : List (List α)} {operands' : List (List β)} {filter : List α} {filter' : List β}
    (hoperands : List.Forall₂ (List.Forall₂ R) operands operands')
    (hfilter : kind.isReduction → List.Forall₂ R filter filter') :
    List.Forall₂ R (kind.arrange operands filter) (kind.arrange operands' filter') := by
  have hplain : List.Forall₂ R ((if kind.isReduction then filter else []) ++ operands.flatten)
      ((if kind.isReduction then filter' else []) ++ operands'.flatten) := by
    refine List.rel_append ?_ (List.rel_flatten hoperands)
    split
    · next h => exact hfilter h
    · exact .nil
  cases kind with
  | find =>
    cases hoperands with
    | nil => exact hplain
    | cons hx hrest =>
      cases hrest with
      | nil => exact hplain
      | cons hy hrest =>
        exact List.rel_append (List.rel_append hy hx) (List.rel_flatten hrest)
  | between =>
    cases hoperands with
    | nil => exact hplain
    | cons hx hrest =>
      cases hrest with
      | nil => exact hplain
      | cons hlo hrest =>
        cases hrest with
        | nil => exact hplain
        | cons hhi hrest =>
          cases hrest with
          | nil => exact List.rel_append (List.rel_append hx hlo) (List.rel_append hx hhi)
          | cons => exact hplain
  | _ => exact hplain

/-- Searches and `between` apart, operands are written in order. -/
theorem Operation.arrange_eq_append {α : Type} {kind : Operation} (hfind : kind ≠ .find)
    (hbetween : kind ≠ .between) (operands : List (List α)) (filter : List α) :
    kind.arrange operands filter =
      (if kind.isReduction then filter else []) ++ operands.flatten := by
  unfold arrange
  split
  · exact absurd rfl hfind
  · exact absurd rfl hbetween
  · rfl

/-- Nothing is written but what the operands hold and, for a reduction, the filter. -/
theorem Operation.mem_arrange {α : Type} {kind : Operation} {operands : List (List α)}
    {filter : List α} {a : α} :
    a ∈ kind.arrange operands filter ↔
      (∃ l ∈ operands, a ∈ l) ∨ kind.isReduction ∧ a ∈ filter := by
  unfold arrange
  split
  · simp [isReduction, or_left_comm]
  · simp [isReduction, or_left_comm]
  · split <;> simp_all [or_comm]

/-- In the server's registry the form of searches belongs to searches, exactly reductions read
their filter, and `between` has no handler. -/
theorem arranged_server (op : Operation) :
    ∀ handler ∈ Registry.server.get? op, handler ≠ .unsupported →
      (handler = .special .find ↔ op = .find) ∧ Lower.readsFilter handler = op.isReduction ∧
        op ≠ .between := by
  cases op with
  | extract part => cases part <;> decide
  | _ => decide

namespace Lower

theorem references_of_castTo {e x : Expr} {type : LogicalType} (h : castTo e type = .ok x) :
    x.references = e.references := by
  obtain ⟨native, -, rfl⟩ := castTo_eq_ok.1 h
  exact Expr.references_cast e native.sql

/-- The operand of an aggregate function, with the filter before it. -/
theorem references_of_reduced {boolCast : Option LogicalType} {operand : Scalar} {e x : Expr}
    {filter : Option Expr} (h : reduced boolCast operand e filter = .ok x) :
    x.references = filter.elim [] Expr.references ++ e.references := by
  obtain ⟨value, hv, rfl⟩ := reduced_eq_ok.1 h
  have hvalue : value.references = e.references := by
    split at hv
    · cases boolCast with
      | none =>
        cases hv
        rfl
      | some type => exact references_of_castTo hv
    · cases hv
      rfl
  cases filter with
  | none => exact hvalue
  | some c => simp [hvalue, Expr.null]

/-- Operations with a form of their own other than a search write their operands in order. Of the
start of a substring a literal can be counted on instead, which has no references. -/
theorem references_of_special {node : Node} {form : SpecialForm} {operands : List Expr}
    {filter : Option Expr} {x : Expr} (hform : form ≠ .find)
    (hliteral : List.Forall₂ (fun a x => (shiftedLiteral? a).isSome → x.references = [])
      node.args operands)
    (h : assemble node (.special form) operands filter = .ok x) :
    x.references = operands.flatMap Expr.references := by
  cases form with
  | find => exact absurd rfl hform
  | substring =>
    simp only [assemble] at h
    split at h
    · next start _ x lowered length hargs =>
      cases h
      rw [hargs] at hliteral
      cases hliteral with
      | cons _ hrest =>
      cases hrest with
      | cons hstart _ =>
      have hposition : (position start lowered).references = lowered.references := by
        unfold position
        split
        · next n hn => exact (hstart (by simp [hn])).symm
        · simp
      simp [hposition]
    · cases h
  | cast =>
    simp only [assemble] at h
    split at h
    · simpa using references_of_castTo h
    · cases h
  | datePart part =>
    simp only [assemble] at h
    split at h
    · simpa using references_of_castTo h
    · cases h
  | membership | connective | negation | nullTest | minus | choice | floorDivide =>
    simp only [assemble] at h
    split at h
    · cases h
      simp
    · cases h

/-- What a handler puts together has the references of the operands and of the filter, arranged
as the operation says. -/
theorem references_of_assemble {node : Node} {handler : Handler} {operands : List Expr}
    {filter : Option Expr} {x : Expr}
    (hhandler : Registry.server.handlerFor node = .ok handler)
    (hliteral : List.Forall₂ (fun a x => (shiftedLiteral? a).isSome → x.references = [])
      node.args operands)
    (h : assemble node handler operands filter = .ok x) :
    x.references =
      node.kind.arrange (operands.map Expr.references) (filter.elim [] Expr.references) := by
  obtain ⟨hget, hsupported⟩ := get?_of_handlerFor hhandler
  obtain ⟨hfind, hfilter, hbetween⟩ := arranged_server node.kind handler hget hsupported
  by_cases hform : handler = .special .find
  · subst hform
    rw [hfind.1 rfl]
    simp only [assemble] at h
    split at h
    · cases h
      simp [Operation.arrange, List.flatMap_def]
    · cases h
  · have hkind : node.kind ≠ .find := fun hkind => hform (hfind.2 hkind)
    rw [Operation.arrange_eq_append hkind hbetween, ← hfilter, ← List.flatMap_def]
    cases handler with
    | unary name | fixed name n | variadic name =>
      cases h
      exact Expr.references_function name operands
    | binary op =>
      simp only [assemble] at h
      split at h
      · cases h
        simp [readsFilter]
      · cases h
    | reduction name boolCast =>
      simp only [assemble] at h
      split at h
      · obtain ⟨y, hy, h⟩ := exceptBind_eq_ok.1 h
        cases h
        have := references_of_reduced hy
        simp [readsFilter, this]
      · cases h
    | special form =>
      exact references_of_special (fun hfind => hform (congrArg _ hfind)) hliteral h
    | unsupported => cases h

/-! ## The recursion -/

theorem references_of_naturalLiteral {value : Value} {x : Expr}
    (h : naturalLiteral value = .ok x) : x.references = [] := by
  cases value with
  | float f =>
    simp only [naturalLiteral] at h
    split at h
    · cases h
      rfl
    · cases h
  | timestamp t => exact references_of_castTo h
  | _ =>
    cases h
    rfl

theorem references_of_literal {value : Value} {type : Option LogicalType} {x : Expr}
    (h : literal value type = .ok x) : x.references = [] := by
  unfold literal at h
  obtain ⟨e, hl, h⟩ := exceptBind_eq_ok.1 h
  have he := references_of_naturalLiteral hl
  split at h
  · split at h
    · cases h
      exact he
    · exact (references_of_castTo h).trans he
  · cases h
    exact he

/-- Putting an expression into a role adds constants only. -/
@[simp]
theorem references_inRole (role : Role) (isPredicate : Bool) (x : Expr) :
    (inRole role isPredicate x).references = x.references := by
  cases role <;> cases isPredicate <;> simp [inRole]

theorem references_of_literalInRole {role : Role} {value : Value} {type : Option LogicalType}
    {x : Expr} (h : literalInRole role value type = .ok x) : x.references = [] := by
  unfold literalInRole at h
  split at h
  · cases h
    simp [truth]
  · obtain ⟨_, -, h⟩ := exceptBind_eq_ok.1 h
    obtain ⟨e, hl, h⟩ := exceptBind_eq_ok.1 h
    cases h
    rw [references_inRole]
    exact references_of_literal hl

/-- A lowered column has the alias of its table. -/
theorem resolves_of_column {aliases : Aliases} {table : TableName} {name : String}
    {type : Option LogicalType} {x : Expr} (h : column aliases table name type = .ok x) :
    x.references = [x] ∧ Resolves aliases.tables (.column table name type) x := by
  unfold column at h
  split at h
  · cases h
  · obtain ⟨tableAlias, hfind, h⟩ := exceptBind_eq_ok.1 h
    cases h
    unfold Aliases.find at hfind
    split at hfind
    · next number hnumber =>
      cases hfind
      obtain ⟨hlt, htable, -⟩ := List.idxOf?_eq_some_iff.1 hnumber
      have hget : aliases.tables[number]? = some table := by
        rw [List.getElem?_eq_getElem hlt, htable]
      exact ⟨rfl, .column hget name _⟩
    · cases hfind

/-- A node notes what its operands and its filter note. -/
theorem noted_lower_op {aliases : Aliases} {role : Role} {kind : Operation}
    {args : List Scalar} {type : Option LogicalType} {filter : Option Scalar}
    {handler : Handler} {operands : List Expr} {condition : Option Expr} {e : Expr}
    (hrole : kind.isPredicate = false → checkRole role (.op kind args type filter) = .ok ())
    (hhandler : Registry.server.handlerFor ⟨kind, args, type, filter⟩ = .ok handler)
    (hcheck : checkNode ⟨kind, args, type, filter⟩ handler = .ok ())
    (hoperands : (lowerOperands aliases handler 0 args).result = .ok operands)
    (hcondition : (lowerFilter aliases handler filter).result = .ok condition)
    (he : assemble ⟨kind, args, type, filter⟩ handler operands condition = .ok e) :
    (lower aliases role (.op kind args type filter)).noted =
      (lowerOperands aliases handler 0 args).noted ++
        (lowerFilter aliases handler filter).noted := by
  rw [lower]
  cases hp : kind.isPredicate with
  | true =>
    simp only [Bool.not_true, Bool.false_eq_true, ↓reduceIte]
    rw [Lowering.noted_ofExcept_bind hhandler, Lowering.noted_ofExcept_bind hcheck,
      Lowering.noted_bind hoperands, Lowering.noted_bind hcondition,
      Lowering.noted_ofExcept_bind he, Lowering.noted_pure, List.append_nil]
  | false =>
    have hchecked : checkRole role (Node.toScalar ⟨kind, args, type, filter⟩) = .ok () := hrole hp
    simp only [Bool.not_false, ↓reduceIte]
    rw [Lowering.noted_ofExcept_bind hchecked, Lowering.noted_ofExcept_bind hhandler,
      Lowering.noted_ofExcept_bind hcheck, Lowering.noted_bind hoperands,
      Lowering.noted_bind hcondition, Lowering.noted_ofExcept_bind he, Lowering.noted_pure,
      List.append_nil]

mutual

/-- The references of a lowered expression resolve those of the expression, one by one, and the
parameters among them are noted. -/
theorem traces_lower {aliases : Aliases} {role : Role} {x : Expr} :
    ∀ {e : Scalar}, (lower aliases role e).result = .ok x →
      (lower aliases role e).Traces aliases.tables e.references x.references
  | .literal value type, h => by
    rw [lower] at h ⊢
    rw [references_of_literalInRole h]
    exact ⟨.nil, by simp⟩
  | .column table name type, h => by
    rw [lower] at h ⊢
    simp only [Lowering.result_bind_eq_ok, Lowering.result_ofExcept, Lowering.result_pure] at h
    obtain ⟨_, hrole, e, he, h⟩ := h
    cases h
    obtain ⟨hreferences, hresolves⟩ := resolves_of_column he
    rw [references_inRole, hreferences]
    refine ⟨.cons hresolves .nil, ?_⟩
    intro n
    rw [Lowering.noted_ofExcept_bind hrole, Lowering.noted_ofExcept_bind he]
    cases hresolves
    simp
  | .param name type, h => by
    rw [lower] at h ⊢
    simp only [Lowering.result_bind_eq_ok, Lowering.result_ofExcept, Lowering.result_pure] at h
    obtain ⟨_, hrole, _, hnote, h⟩ := h
    cases h
    have hname := Lowering.result_note_eq_ok.1 hnote
    rw [references_inRole, Expr.references_param]
    refine ⟨.cons (.param hname type) .nil, ?_⟩
    intro n
    rw [Lowering.noted_ofExcept_bind hrole, Lowering.noted_bind hnote,
      Lowering.noted_note hname]
    simp
  | .op kind args type filter, h => by
    obtain ⟨hrole, handler, operands, condition, e, hh, hn, ho, hc, he, rfl⟩ :=
      result_lower_op.1 h
    obtain ⟨hresolves, hnoted⟩ := traces_lowerOperands ho
    obtain ⟨hfilter, hfilterNoted⟩ := traces_lowerFilter hc
    obtain ⟨hget, hsupported⟩ := get?_of_handlerFor hh
    obtain ⟨-, hreads, -⟩ := arranged_server kind handler hget hsupported
    rw [hreads] at hfilter hfilterNoted
    have hliteral : List.Forall₂ (fun a x => (shiftedLiteral? a).isSome → x.references = [])
        args operands := by
      refine hresolves.imp ?_
      intro a y hay hshifted
      unfold shiftedLiteral? at hshifted
      split at hshifted
      · exact List.forall₂_nil_left_iff.1 hay
      · cases hshifted
    rw [references_inRole, references_of_assemble hh hliteral he, Scalar.references_op]
    constructor
    · refine Operation.forall₂_arrange kind ?_ hfilter
      rw [List.forall₂_map_left_iff, List.forall₂_map_right_iff]
      exact hresolves
    · intro name
      rw [noted_lower_op hrole hh hn ho hc he, List.mem_append, hnoted, hfilterNoted,
        Operation.mem_arrange]
      simp

theorem traces_lowerOperands {aliases : Aliases} {handler : Handler} :
    ∀ {position : Nat} {args : List Scalar} {operands : List Expr},
      (lowerOperands aliases handler position args).result = .ok operands →
        List.Forall₂
          (fun a x => List.Forall₂ (Resolves aliases.tables) a.references x.references)
          args operands ∧
        ∀ name, name ∈ (lowerOperands aliases handler position args).noted ↔
          ∃ x ∈ operands, Expr.param name ∈ x.references
  | position, [], operands, h => by
    rw [lowerOperands] at h ⊢
    cases h
    exact ⟨.nil, by simp⟩
  | position, arg :: rest, operands, h => by
    rw [lowerOperands] at h ⊢
    simp only [Lowering.result_bind_eq_ok, Lowering.result_pure] at h
    obtain ⟨y, hy, ys, hys, h⟩ := h
    cases h
    have harg := traces_lower hy
    obtain ⟨hresolves, hnoted⟩ := traces_lowerOperands hys
    refine ⟨.cons harg.resolves hresolves, ?_⟩
    intro name
    rw [Lowering.noted_bind hy, Lowering.noted_bind hys]
    simp [harg.noted, hnoted]

theorem traces_lowerFilter {aliases : Aliases} {handler : Handler} :
    ∀ {filter : Option Scalar} {condition : Option Expr},
      (lowerFilter aliases handler filter).result = .ok condition →
        (readsFilter handler → List.Forall₂ (Resolves aliases.tables)
          (filter.elim [] Scalar.references) (condition.elim [] Expr.references)) ∧
        ∀ name, name ∈ (lowerFilter aliases handler filter).noted ↔
          readsFilter handler ∧ Expr.param name ∈ condition.elim [] Expr.references
  | none, condition, h => by
    rw [lowerFilter] at h ⊢
    cases h
    exact ⟨fun _ => .nil, by simp⟩
  | some f, condition, h => by
    rw [lowerFilter] at h ⊢
    split at h
    · next hreads =>
      simp only [Lowering.result_bind_eq_ok, Lowering.result_pure] at h
      obtain ⟨c, hc, h⟩ := h
      cases h
      have hf := traces_lower hc
      refine ⟨fun _ => hf.resolves, ?_⟩
      intro name
      rw [if_pos hreads, Lowering.noted_bind hc]
      simp [hf.noted, hreads]
    · next hreads =>
      cases h
      refine ⟨fun hreads' => absurd hreads' hreads, ?_⟩
      intro name
      rw [if_neg hreads]
      simp

end

end Lower

end TransactSql
