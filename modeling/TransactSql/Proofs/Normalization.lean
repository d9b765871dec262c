import Mathlib.Data.List.Basic
import Mathlib.Logic.Relation
import Mathlib.Tactic.Common
import TransactSql.Compile.Rules
import TransactSql.Proofs.Traverse

/-!
# The base rules have unique normal forms

`RuleSet.normalize` goes through an expression once, from the root down. Here the base rules are
taken as a rewriting system: a step replaces one node, at any depth, by the result of its rule. A
rule can copy an operand with everything that is still to be rewritten in it, and it can drop a
filter, so neither that steps come to an end nor that their order does not matter is immediate.

Steps come to an end since they lower a weight that counts the operands of rewritable nodes twice.
Their order does not matter since no step changes the normal form, which is computed from the
leaves up. And one pass from the root down computes this normal form.
-/

open Relation (ReflTransGen)

namespace TransactSql

namespace Scalar

/-! ## Steps -/

/-- One step: a node of a base rule, with as many operands as the rule takes, is replaced by the
result of the rule, at the root or at any depth below it. -/
inductive Step : Scalar → Scalar → Prop
  | between (x lo hi : Scalar) (type : Option LogicalType) (filter : Option Scalar) :
      Step (.op .between [x, lo, hi] type filter) (Rule.between ⟨.between, [x, lo, hi], type, filter⟩)
  | notNull (x : Scalar) (type : Option LogicalType) (filter : Option Scalar) :
      Step (.op .notNull [x] type filter) (Rule.notNull ⟨.notNull, [x], type, filter⟩)
  | ifNull (x y : Scalar) (type : Option LogicalType) (filter : Option Scalar) :
      Step (.op .ifNull [x, y] type filter) (Rule.ifNull ⟨.ifNull, [x, y], type, filter⟩)
  | operand {kind : Operation} (before : List Scalar) {arg arg' : Scalar} (after : List Scalar)
      {type : Option LogicalType} {filter : Option Scalar} (h : Step arg arg') :
      Step (.op kind (before ++ arg :: after) type filter)
        (.op kind (before ++ arg' :: after) type filter)
  | filter {kind : Operation} {args : List Scalar} {type : Option LogicalType} {f f' : Scalar}
      (h : Step f f') : Step (.op kind args type (some f)) (.op kind args type (some f'))

/-- No step is possible. -/
def IsNormal (e : Scalar) : Prop :=
  ∀ e', ¬ Step e e'

end Scalar

/-- Whether a node is one that a base rule replaces. -/
def Node.isRedex (node : Node) : Bool :=
  match node.kind with
  | .between => node.args.length == 3
  | .notNull => node.args.length == 1
  | .ifNull => node.args.length == 2
  | _ => false

/-- The base rules replace redexes, and nothing else. -/
theorem replacement?_eq_none_iff {node : Node} :
    RuleSet.base.replacement? node = none ↔ node.isRedex = false := by
  obtain ⟨kind, args, type, filter⟩ := node
  cases kind <;> simp [RuleSet.replacement?, RuleSet.base, Node.wellFormed, Node.isRedex]

/-- The redexes one by one. -/
theorem isRedex_cases {node : Node} (h : node.isRedex) :
    (∃ x lo hi, node.kind = .between ∧ node.args = [x, lo, hi]) ∨
    (∃ x, node.kind = .notNull ∧ node.args = [x]) ∨
    (∃ x y, node.kind = .ifNull ∧ node.args = [x, y]) := by
  obtain ⟨kind, args, type, filter⟩ := node
  cases kind with
  | between =>
    obtain ⟨x, lo, hi, rfl⟩ := List.length_eq_three.1 (by simpa [Node.isRedex] using h)
    exact .inl ⟨x, lo, hi, rfl, rfl⟩
  | notNull =>
    obtain ⟨x, rfl⟩ := List.length_eq_one_iff.1 (by simpa [Node.isRedex] using h)
    exact .inr (.inl ⟨x, rfl, rfl⟩)
  | ifNull =>
    obtain ⟨x, y, rfl⟩ := List.length_eq_two.1 (by simpa [Node.isRedex] using h)
    exact .inr (.inr ⟨x, y, rfl, rfl⟩)
  | _ => cases h

namespace Scalar

/-! ## Termination -/

mutual

/-- A weight that every step lowers: what a rule may copy counts twice. -/
def weight : Scalar → Nat
  | op kind args _ filter =>
    if RuleSet.base.covers kind then 2 * weightOfArgs args + weightOfFilter filter + 4
    else weightOfArgs args + weightOfFilter filter + 1
  | literal .. | column .. | param .. => 1

/-- The weight of operands. -/
def weightOfArgs : List Scalar → Nat
  | [] => 0
  | arg :: rest => arg.weight + weightOfArgs rest

/-- The weight of a filter. -/
def weightOfFilter : Option Scalar → Nat
  | none => 0
  | some filter => filter.weight

end

theorem weightOfArgs_append (args rest : List Scalar) :
    weightOfArgs (args ++ rest) = weightOfArgs args + weightOfArgs rest := by
  induction args with
  | nil => simp [weightOfArgs]
  | cons arg args ih =>
    rw [List.cons_append, weightOfArgs, weightOfArgs, ih]
    omega

theorem weight_apply {kind : Operation} (h : RuleSet.base.covers kind = false)
    (args : List Scalar) : (apply kind args).weight = weightOfArgs args + 1 := by
  simp [apply, weight, weightOfFilter, h]

theorem weight_of_covers {kind : Operation} (h : RuleSet.base.covers kind) (args : List Scalar)
    (type : Option LogicalType) (filter : Option Scalar) :
    (op kind args type filter).weight = 2 * weightOfArgs args + weightOfFilter filter + 4 := by
  rw [weight, if_pos h]

theorem weight_lt_of_step {e e' : Scalar} (h : Step e e') : e'.weight < e.weight := by
  induction h with
  | between x lo hi type filter =>
    -- `x` is copied, and counted twice before
    rw [weight_of_covers rfl]
    simp (disch := decide) only [Rule.between, Scalar.and, atLeast, atMost, weight_apply,
      weightOfArgs]
    omega
  | notNull x type filter =>
    rw [weight_of_covers rfl]
    simp (disch := decide) only [Rule.notNull, Scalar.not, weight_apply, weightOfArgs]
    omega
  | ifNull x y type filter =>
    rw [weight_of_covers rfl]
    simp (disch := decide) only [Rule.ifNull, weight_apply, weightOfArgs]
    omega
  | operand before after _ ih =>
    simp only [weight, weightOfArgs_append, weightOfArgs]
    split <;> omega
  | filter _ ih =>
    simp only [weight, weightOfFilter]
    split <;> omega

/-- No sequence of steps goes on forever: after `n` steps at least `n` of the weight is gone. -/
theorem no_infinite_steps (steps : Nat → Scalar) : ¬ ∀ n, Step (steps n) (steps (n + 1)) := by
  intro h
  have hweight : ∀ n, (steps n).weight + n ≤ (steps 0).weight := by
    intro n
    induction n with
    | zero => simp
    | succ n ih =>
      have := weight_lt_of_step (h n)
      omega
  have := hweight ((steps 0).weight + 1)
  omega

/-! ## Normal forms -/

/-- A node with its rule applied, if a base rule replaces it. -/
def contract (node : Node) : Scalar :=
  (RuleSet.base.replacement? node).getD node.toScalar

mutual

/-- The normal form, from the leaves up: operands and filter first, then the node. -/
def normalForm : Scalar → Scalar
  | op kind args type filter =>
    contract ⟨kind, normalFormOfArgs args, type, normalFormOfFilter filter⟩
  | leaf => leaf

/-- The normal forms of operands. -/
def normalFormOfArgs : List Scalar → List Scalar
  | [] => []
  | arg :: rest => arg.normalForm :: normalFormOfArgs rest

/-- The normal form of a filter. -/
def normalFormOfFilter : Option Scalar → Option Scalar
  | none => none
  | some filter => some filter.normalForm

end

theorem normalForm_op (kind : Operation) (args : List Scalar) (type : Option LogicalType)
    (filter : Option Scalar) :
    (op kind args type filter).normalForm =
      contract ⟨kind, args.map normalForm, type, filter.map normalForm⟩ := by
  have hargs : ∀ args, normalFormOfArgs args = args.map normalForm := by
    intro args
    induction args with
    | nil => rfl
    | cons arg rest ih => rw [normalFormOfArgs, ih, List.map_cons]
  have hfilter : normalFormOfFilter filter = filter.map normalForm := by
    cases filter <;> rfl
  rw [normalForm, hargs, hfilter]

/-- A node that is no redex stays. -/
theorem contract_of_not_isRedex {node : Node} (h : node.isRedex = false) :
    contract node = node.toScalar := by
  unfold contract
  rw [replacement?_eq_none_iff.2 h]
  rfl

theorem normalForm_of_not_isRedex {kind : Operation} {args : List Scalar}
    {type : Option LogicalType} {filter : Option Scalar}
    (h : (Node.mk kind args type filter).isRedex = false) :
    (op kind args type filter).normalForm =
      op kind (args.map normalForm) type (filter.map normalForm) := by
  have hmapped : (Node.mk kind (args.map normalForm) type (filter.map normalForm)).isRedex =
      (Node.mk kind args type filter).isRedex := by
    simp only [Node.isRedex, List.length_map]
  rw [normalForm_op, contract_of_not_isRedex (hmapped.trans h)]
  rfl

/-- No step changes the normal form. -/
theorem normalForm_eq_of_step {e e' : Scalar} (h : Step e e') : e.normalForm = e'.normalForm := by
  induction h with
  -- a rule moves operands only, so it commutes with taking their normal forms
  | between => rfl
  | notNull => rfl
  | ifNull => rfl
  | operand before after _ ih => simp only [normalForm_op, List.map_append, List.map_cons, ih]
  | filter _ ih => simp only [normalForm_op, Option.map_some, ih]

theorem normalForm_eq_of_steps {e e' : Scalar} (h : ReflTransGen Step e e') :
    e.normalForm = e'.normalForm := by
  induction h with
  | refl => rfl
  | tail _ hstep ih => exact ih.trans (normalForm_eq_of_step hstep)

/-! ### Reaching the normal form -/

/-- The steps of an operand are steps of the operation. -/
theorem steps_operand {kind : Operation} (before : List Scalar) {arg arg' : Scalar}
    (after : List Scalar) {type : Option LogicalType} {filter : Option Scalar}
    (h : ReflTransGen Step arg arg') :
    ReflTransGen Step (.op kind (before ++ arg :: after) type filter)
      (.op kind (before ++ arg' :: after) type filter) := by
  induction h with
  | refl => exact .refl
  | tail _ hstep ih => exact ih.tail (.operand before after hstep)

/-- Operands reach their normal forms one after the other, those before them being done. -/
theorem steps_operands {kind : Operation} (done : List Scalar) {args : List Scalar}
    {type : Option LogicalType} {filter : Option Scalar}
    (h : ∀ a ∈ args, ReflTransGen Step a a.normalForm) :
    ReflTransGen Step (.op kind (done ++ args) type filter)
      (.op kind (done ++ args.map normalForm) type filter) := by
  induction args generalizing done with
  | nil => exact .refl
  | cons arg args ih =>
    obtain ⟨harg, hargs⟩ := List.forall_mem_cons.1 h
    have hrest := ih (done ++ [arg.normalForm]) hargs
    simp only [List.append_assoc, List.singleton_append] at hrest
    exact (steps_operand done args harg).trans hrest

theorem steps_filter {kind : Operation} {args : List Scalar} {type : Option LogicalType}
    {f f' : Scalar} (h : ReflTransGen Step f f') :
    ReflTransGen Step (.op kind args type (some f)) (.op kind args type (some f')) := by
  induction h with
  | refl => exact .refl
  | tail _ hstep ih => exact ih.tail (.filter hstep)

/-- Applying the rule of a node is one step, or none. -/
theorem steps_contract (node : Node) : ReflTransGen Step node.toScalar (contract node) := by
  cases hredex : node.isRedex with
  | false =>
    rw [contract_of_not_isRedex hredex]
  | true =>
    obtain ⟨kind, args, type, filter⟩ := node
    obtain ⟨x, lo, hi, rfl, rfl⟩ | ⟨x, rfl, rfl⟩ | ⟨x, y, rfl, rfl⟩ := isRedex_cases hredex
    · exact .single (.between x lo hi type filter)
    · exact .single (.notNull x type filter)
    · exact .single (.ifNull x y type filter)

/-- Every expression can be rewritten to its normal form. -/
theorem steps_normalForm (e : Scalar) : ReflTransGen Step e e.normalForm := by
  induction e using induct with
  | op kind args type filter ihargs ihfilter =>
    have hargs : ReflTransGen Step (.op kind args type filter)
        (.op kind (args.map normalForm) type filter) := steps_operands [] ihargs
    have hfilter : ReflTransGen Step (.op kind (args.map normalForm) type filter)
        (.op kind (args.map normalForm) type (filter.map normalForm)) := by
      cases filter with
      | none => exact .refl
      | some f => exact steps_filter (ihfilter f rfl)
    have hnode := steps_contract ⟨kind, args.map normalForm, type, filter.map normalForm⟩
    rw [normalForm_op]
    exact (hargs.trans hfilter).trans hnode
  | literal | column | param => exact .refl

/-! ### Expressions without steps -/

/-- A step is possible at the node itself, in an operand or in the filter. -/
theorem isNormal_op {kind : Operation} {args : List Scalar} {type : Option LogicalType}
    {filter : Option Scalar} :
    IsNormal (op kind args type filter) ↔
      (Node.mk kind args type filter).isRedex = false ∧ (∀ a ∈ args, IsNormal a) ∧
        ∀ f ∈ filter, IsNormal f := by
  constructor
  · intro h
    refine ⟨?_, ?_, ?_⟩
    · rw [← Bool.not_eq_true]
      intro hredex
      obtain ⟨x, lo, hi, rfl, rfl⟩ | ⟨x, rfl, rfl⟩ | ⟨x, y, rfl, rfl⟩ := isRedex_cases hredex
      · exact h _ (.between x lo hi type filter)
      · exact h _ (.notNull x type filter)
      · exact h _ (.ifNull x y type filter)
    · intro a ha a' hstep
      obtain ⟨before, after, rfl⟩ := List.append_of_mem ha
      exact h _ (.operand before after hstep)
    · intro f hf f' hstep
      cases hf
      exact h _ (.filter hstep)
  · rintro ⟨hnode, hargs, hfilter⟩ e' hstep
    cases hstep with
    | between => cases hnode
    | notNull => cases hnode
    | ifNull => cases hnode
    | operand before after hstep => exact hargs _ (by simp) _ hstep
    | filter hstep => exact hfilter _ rfl _ hstep

/-- Operations without a rule are normal when their operands are. -/
theorem isNormal_apply {kind : Operation} {args : List Scalar}
    (hkind : (Node.mk kind args none none).isRedex = false) (hargs : ∀ a ∈ args, IsNormal a) :
    IsNormal (apply kind args) :=
  isNormal_op.2 ⟨hkind, hargs, by simp⟩

/-- No step is possible in a normal form. -/
theorem isNormal_normalForm (e : Scalar) : IsNormal e.normalForm := by
  induction e using induct with
  | op kind args type filter ihargs ihfilter =>
    cases hredex : (Node.mk kind args type filter).isRedex with
    | false =>
      rw [normalForm_of_not_isRedex hredex, isNormal_op]
      refine ⟨?_, by simpa using ihargs, by simpa using ihfilter⟩
      simpa only [Node.isRedex, List.length_map] using hredex
    | true =>
      rw [normalForm_op]
      -- the result of a rule is no redex, at its root and in what it puts around operands
      obtain ⟨x, lo, hi, rfl, rfl⟩ | ⟨x, rfl, rfl⟩ | ⟨x, y, rfl, rfl⟩ := isRedex_cases hredex
      · have hlow : IsNormal (x.normalForm.atLeast lo.normalForm) :=
          isNormal_apply rfl (by simp [ihargs])
        have hhigh : IsNormal (x.normalForm.atMost hi.normalForm) :=
          isNormal_apply rfl (by simp [ihargs])
        exact isNormal_apply rfl (by simp [hlow, hhigh])
      · have htest : IsNormal (apply .isNull [x.normalForm]) :=
          isNormal_apply rfl (by simp [ihargs])
        exact isNormal_apply rfl (by simp [htest])
      · exact isNormal_apply rfl (by simp [ihargs])
  | literal | column | param => exact fun e' hstep => nomatch hstep

/-- A normal expression is its own normal form. -/
theorem IsNormal.normalForm_eq {e : Scalar} (h : IsNormal e) : e.normalForm = e := by
  obtain heq | ⟨e', hstep, -⟩ := ReflTransGen.cases_head_iff.1 (steps_normalForm e)
  · exact heq.symm
  · exact absurd hstep (h e')

/-- The operands and the filter of a node; a leaf has none. -/
def children : Scalar → List Scalar
  | op _ args _ filter => args ++ filter.toList
  | _ => []

theorem mem_children_op {kind : Operation} {args : List Scalar} {type : Option LogicalType}
    {filter : Option Scalar} {a : Scalar} :
    a ∈ (op kind args type filter).children ↔ a ∈ args ∨ filter = some a := by
  simp [children]

/-- An expression occurs in another one: it is that expression, or it occurs in an operand or in
the filter. -/
inductive Occurs (e : Scalar) : Scalar → Prop
  | here : Occurs e e
  | operand {kind : Operation} {args : List Scalar} {type : Option LogicalType}
      {filter : Option Scalar} {arg : Scalar} (harg : arg ∈ args) (h : Occurs e arg) :
      Occurs e (.op kind args type filter)
  | filter {kind : Operation} {args : List Scalar} {type : Option LogicalType} {f : Scalar}
      (h : Occurs e f) : Occurs e (.op kind args type (some f))

/-- What occurs in a normal expression is normal. -/
theorem IsNormal.of_occurs {e e' : Scalar} (h : IsNormal e') (hoccurs : Occurs e e') :
    IsNormal e := by
  induction hoccurs with
  | here => exact h
  | operand harg _ ih => exact ih ((isNormal_op.1 h).2.1 _ harg)
  | filter _ ih => exact ih ((isNormal_op.1 h).2.2 _ rfl)

end Scalar

/-! ## The pass from the root down -/

namespace Scalar

theorem depth_le_depthOfArgs {args : List Scalar} {a : Scalar} (h : a ∈ args) :
    a.depth ≤ depthOfArgs args := by
  induction args with
  | nil => cases h
  | cons arg rest ih =>
    rw [depthOfArgs]
    rcases List.mem_cons.1 h with rfl | h
    · omega
    · have := ih h
      omega

/-- Operands are less deep than the operation. -/
theorem depth_lt_of_mem {args : List Scalar} {a : Scalar} (h : a ∈ args) (kind : Operation)
    (type : Option LogicalType) (filter : Option Scalar) :
    a.depth < (op kind args type filter).depth := by
  have := depth_le_depthOfArgs h
  rw [depth]
  omega

theorem depth_lt_of_filter (f : Scalar) (kind : Operation) (args : List Scalar)
    (type : Option LogicalType) : f.depth < (op kind args type (some f)).depth := by
  rw [depth, depthOfFilter]
  omega

end Scalar

namespace RuleSet

open Scalar

variable {rules : RuleSet} {next : Scalar → Scalar}

theorem visitArgs_eq_map (args : List Scalar) :
    visitArgs rules next args = args.map (visit rules next) := by
  induction args with
  | nil => rfl
  | cons arg rest ih => rw [visitArgs, ih, List.map_cons]

theorem visitFilter_eq_map (filter : Option Scalar) :
    visitFilter rules next filter = filter.map (visit rules next) := by
  cases filter <;> rfl

/-- A node without a rule is kept, and its operands and its filter are visited. -/
theorem pass_of_replacement?_none (budget : Nat) {kind : Operation} {args : List Scalar}
    {type : Option LogicalType} {filter : Option Scalar}
    (h : rules.replacement? ⟨kind, args, type, filter⟩ = none) :
    pass rules budget (.op kind args type filter) =
      .op kind (args.map (pass rules budget)) type (filter.map (pass rules budget)) := by
  cases budget with
  | zero =>
    have hid : pass rules 0 = id := rfl
    rw [hid, List.map_id, Option.map_id]
    rfl
  | succ budget =>
    have hpass : pass rules (budget + 1) = visit rules (pass rules budget) := rfl
    rw [hpass, visit, h, visitArgs_eq_map, visitFilter_eq_map]

/-- An operation that has no base rule. -/
theorem pass_apply (budget : Nat) {kind : Operation} (args : List Scalar)
    (h : base.rule? kind = none) :
    pass base budget (apply kind args) = apply kind (args.map (pass base budget)) := by
  have hnone : base.replacement? ⟨kind, args, none, none⟩ = none := by
    simp [replacement?, h]
  exact pass_of_replacement?_none budget hnone

/-- A pass whose budget suffices below replacements gives normal forms. The results of rules are
as deep as what they replace, but what they put around operands has no rule itself. -/
theorem visit_eq_normalForm {budget : Nat}
    (hnext : ∀ e : Scalar, e.depth ≤ budget → pass base budget e = e.normalForm) (e : Scalar)
    (hdepth : e.depth ≤ budget + 1) : visit base (pass base budget) e = e.normalForm := by
  induction e using induct with
  | op kind args type filter ihargs ihfilter =>
    have hargs : ∀ a ∈ args, a.depth ≤ budget := by
      intro a ha
      have := depth_lt_of_mem ha kind type filter
      omega
    have hfilter : ∀ f ∈ filter, f.depth ≤ budget := by
      intro f hf
      cases hf
      have := depth_lt_of_filter f kind args type
      omega
    cases hredex : (Node.mk kind args type filter).isRedex with
    | false =>
      have hargs' : args.map (visit base (pass base budget)) = args.map normalForm :=
        List.map_congr_left fun a ha => ihargs a ha (Nat.le_succ_of_le (hargs a ha))
      have hfilter' : filter.map (visit base (pass base budget)) = filter.map normalForm :=
        Option.map_congr fun f hf => ihfilter f hf (Nat.le_succ_of_le (hfilter f hf))
      rw [visit, replacement?_eq_none_iff.2 hredex, visitArgs_eq_map, visitFilter_eq_map,
        normalForm_of_not_isRedex hredex, hargs', hfilter']
    | true =>
      obtain ⟨x, lo, hi, rfl, rfl⟩ | ⟨x, rfl, rfl⟩ | ⟨x, y, rfl, rfl⟩ := isRedex_cases hredex
      -- what a rule puts around the operands is passed through with the same budget
      · have hx := hnext x (hargs x (by simp))
        have hlo := hnext lo (hargs lo (by simp))
        have hhi := hnext hi (hargs hi (by simp))
        show apply .and [pass base budget (x.atLeast lo), pass base budget (x.atMost hi)] = _
        rw [atLeast, atMost, pass_apply _ _ rfl, pass_apply _ _ rfl]
        simp only [List.map_cons, List.map_nil, hx, hlo, hhi]
        rfl
      · have hx := hnext x (hargs x (by simp))
        show apply .not [pass base budget (apply .isNull [x])] = _
        rw [pass_apply _ _ rfl]
        simp only [List.map_cons, List.map_nil, hx]
        rfl
      · have hx := hnext x (hargs x (by simp))
        have hy := hnext y (hargs y (by simp))
        show apply .coalesce [pass base budget x, pass base budget y] = _
        rw [hx, hy]
        rfl
  | literal | column | param => rfl

/-- A budget that is not below the depth suffices. -/
theorem pass_eq_normalForm {budget : Nat} {e : Scalar} (h : e.depth ≤ budget) :
    pass base budget e = e.normalForm := by
  induction budget generalizing e with
  | zero =>
    cases e with
    | op kind args type filter => simp [Scalar.depth] at h
    | literal | column | param => rfl
  | succ budget ih => exact visit_eq_normalForm (fun e he => ih he) e h

/-- The base rules are applied until no step is possible. -/
theorem normalize_eq_normalForm (e : Scalar) : base.normalize e = e.normalForm := by
  have hbudget : e.depth ≤ base.budget e := Nat.le_mul_of_pos_left _ (Nat.succ_pos _)
  exact pass_eq_normalForm hbudget

end RuleSet

/-! ## Unique normal forms -/

namespace RuleSet

open Scalar

/-- The base rules as a rewriting system: no sequence of steps goes on forever, and whatever the
order, steps that cannot go on have ended in what `normalize` gives, which is a normal form and
is reached. So normalizing twice changes nothing more, no redex is left at any depth, and a node
of a rule with a wrong number of operands is kept with its operands and its filter normalized.
The expressions of a normalized relation are those of the relation, each normalized. -/
theorem base_normalize_unique :
    (∀ steps : Nat → Scalar, ¬ ∀ n, Step (steps n) (steps (n + 1))) ∧
    (∀ e e' : Scalar, ReflTransGen Step e e' → IsNormal e' → e' = base.normalize e) ∧
    (∀ e : Scalar, ReflTransGen Step e (base.normalize e) ∧ IsNormal (base.normalize e)) ∧
    (∀ e : Scalar, base.normalize (base.normalize e) = base.normalize e) ∧
    (∀ (e : Scalar) (node : Node), Occurs node.toScalar (base.normalize e) →
      node.isRedex = false) ∧
    (∀ (kind : Operation) (args : List Scalar) (type : Option LogicalType)
      (filter : Option Scalar), (Node.mk kind args type filter).isRedex = false →
      base.normalize (.op kind args type filter) =
        .op kind (args.map base.normalize) type (filter.map base.normalize)) ∧
    (∀ r : Relation, (base.normalizeRelation r).expressions = r.expressions.map base.normalize ∧
      base.normalizeRelation (base.normalizeRelation r) = base.normalizeRelation r) := by
  have hnormalize : base.normalize = normalForm := funext normalize_eq_normalForm
  have hidempotent : ∀ e : Scalar, e.normalForm.normalForm = e.normalForm :=
    fun e => (isNormal_normalForm e).normalForm_eq
  rw [hnormalize]
  refine ⟨no_infinite_steps, ?_, ?_, hidempotent, ?_, ?_, ?_⟩
  · intro e e' hsteps hnormal
    rw [normalForm_eq_of_steps hsteps, hnormal.normalForm_eq]
  · intro e
    exact ⟨steps_normalForm e, isNormal_normalForm e⟩
  · intro e node hoccurs
    exact (isNormal_op.1 ((isNormal_normalForm e).of_occurs hoccurs)).1
  · intro kind args type filter hredex
    exact normalForm_of_not_isRedex hredex
  · intro r
    unfold normalizeRelation
    rw [hnormalize]
    refine ⟨Relation.expressions_mapExpressions _ r, ?_⟩
    rw [Relation.mapExpressions_mapExpressions]
    simp only [hidempotent]

/-- The test `@a is not null` between two bounds, rewritten from the inside out: the outer rule
copies what the inner one has rewritten. -/
theorem base_normalize_unique_inside_out :
    let a : Scalar := .param "a" .int64
    let test : Scalar := (apply .isNull [a]).not
    let e : Scalar := apply .between [apply .notNull [a], a, a]
    let e' : Scalar := (test.atLeast a).and (test.atMost a)
    ReflTransGen Step e e' ∧ e' = base.normalize e := by
  intro a test e e'
  have hsteps : ReflTransGen Step e e' :=
    (ReflTransGen.single (.operand [] [a, a] (.notNull a none none))).tail
      (.between test a a none none)
  have hnormal : IsNormal e' := isNormal_normalForm e
  exact ⟨hsteps, base_normalize_unique.2.1 e e' hsteps hnormal⟩

end RuleSet

end TransactSql
