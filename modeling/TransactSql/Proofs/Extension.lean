import Mathlib.Order.OrderIsoNat
import TransactSql.Proofs.Normalization
import TransactSql.Proofs.Overriding

/-!
# Extended rule sets normalize too

A dialect can bring rules of its own. A pass does not look at a replacement again, but it visits
what lies below it, and that need not be part of the expression that was replaced. So with
arbitrary rules a pass may go on forever, or leave something behind at the root of a replacement.

Neither happens if every rule wraps what it finds: its results are operations without a rule, put
around what lies below the replaced node (`RuleSet.Wraps`). With such rules no chain of visits goes
on forever, `normalize` is the pass that the visits describe (`Wraps.normalize_eq`), however deep
the results of rules are, and no node that can be replaced is left. `extend_normalizes` says it of
all extensions of the base rules that wrap.
-/

namespace TransactSql

namespace Scalar

/-! ## Children -/

/-- An expression lies below another one: it occurs in an operand or in the filter. -/
def Below (p e : Scalar) : Prop :=
  ∃ a ∈ e.children, Occurs p a

/-- Induction on expressions by their children. -/
theorem childrenInduct {P : Scalar → Prop} (h : ∀ e, (∀ a ∈ e.children, P a) → P e)
    (e : Scalar) : P e := by
  induction e using induct with
  | op kind args type filter ihargs ihfilter =>
    refine h _ fun a ha => ?_
    rcases mem_children_op.1 ha with ha | ha
    · exact ihargs a ha
    · exact ihfilter a ha
  | literal | column | param => exact h _ fun a ha => nomatch ha

/-- What occurs in an expression is the expression itself or lies below it. -/
theorem occurs_iff {p e : Scalar} : Occurs p e ↔ p = e ∨ Below p e := by
  constructor
  · intro h
    cases h with
    | here => exact .inl rfl
    | operand harg h => exact .inr ⟨_, mem_children_op.2 (.inl harg), h⟩
    | filter h => exact .inr ⟨_, mem_children_op.2 (.inr rfl), h⟩
  · rintro (rfl | ⟨a, ha, h⟩)
    · exact .here
    · cases e with
      | op kind args type filter =>
        rcases mem_children_op.1 ha with ha | rfl
        · exact .operand ha h
        · exact .filter h
      | literal | column | param => cases ha

theorem below_of_mem {a e : Scalar} (h : a ∈ e.children) : Below a e :=
  ⟨a, h, .here⟩

/-- What lies below an expression is less deep. -/
theorem depth_lt_of_below {p e : Scalar} (h : Below p e) : p.depth < e.depth := by
  induction e using childrenInduct with
  | _ e ih =>
    obtain ⟨a, ha, hp⟩ := h
    have hchild : a.depth < e.depth := by
      cases e with
      | op kind args type filter =>
        rcases mem_children_op.1 ha with ha | rfl
        · exact depth_lt_of_mem ha kind type filter
        · exact depth_lt_of_filter a kind args type
      | literal | column | param => cases ha
    rcases occurs_iff.1 hp with rfl | hp
    · exact hchild
    · exact (ih a ha hp).trans hchild

theorem mapChildren_congr {e : Scalar} {f g : Scalar → Scalar} (h : ∀ a ∈ e.children, f a = g a) :
    e.mapChildren f = e.mapChildren g := by
  cases e with
  | op kind args type filter =>
    have hargs : args.map f = args.map g :=
      List.map_congr_left fun a ha => h a (mem_children_op.2 (.inl ha))
    have hfilter : filter.map f = filter.map g :=
      Option.map_congr fun a ha => h a (mem_children_op.2 (.inr ha))
    rw [mapChildren, mapChildren, hargs, hfilter]
  | literal | column | param => rfl

theorem mapChildren_id (e : Scalar) : e.mapChildren id = e := by
  cases e with
  | op kind args type filter => simp [mapChildren]
  | literal | column | param => rfl

theorem children_mapChildren (f : Scalar → Scalar) (e : Scalar) :
    (e.mapChildren f).children = e.children.map f := by
  cases e with
  | op kind args type filter => cases filter <;> simp [mapChildren, children]
  | literal | column | param => rfl

end Scalar

open Scalar

namespace RuleSet

variable {rules : RuleSet}

/-! ## Rules that wrap -/

/-- What replaces the root of an expression, if it has a rule that can take it apart. -/
def replaced? (rules : RuleSet) : Scalar → Option Scalar
  | .op kind args type filter => rules.replacement? ⟨kind, args, type, filter⟩
  | _ => none

/-- An expression that is put together from what lies below `root`, by leaves and by operations
without a rule. -/
inductive Assembled (rules : RuleSet) (root : Scalar) : Scalar → Prop
  | part {e : Scalar} (h : Below e root) : Assembled rules root e
  | literal (value : Value) (type : Option LogicalType) : Assembled rules root (.literal value type)
  | column (table : TableName) (name : String) (type : Option LogicalType) :
      Assembled rules root (.column table name type)
  | param (name : String) (type : LogicalType) : Assembled rules root (.param name type)
  | op {kind : Operation} {args : List Scalar} {type : Option LogicalType} {filter : Option Scalar}
      (hkind : rules.covers kind = false)
      (hchildren : ∀ a, a ∈ args ∨ filter = some a → Assembled rules root a) :
      Assembled rules root (.op kind args type filter)

/-- An operation without a rule, whose operands and whose filter are assembled from what lies below
`root`. -/
def Wrapped (rules : RuleSet) (root e : Scalar) : Prop :=
  ∃ kind args type filter, e = .op kind args type filter ∧ rules.covers kind = false ∧
    ∀ a, a ∈ args ∨ filter = some a → Assembled rules root a

/-- Every rule of the set puts operations without a rule around parts of what it replaces. -/
def Wraps (rules : RuleSet) : Prop :=
  ∀ (node : Node) (e : Scalar), rules.replacement? node = some e → rules.Wrapped node.toScalar e

theorem wrapped_apply {root : Scalar} {kind : Operation} (hkind : rules.covers kind = false)
    {args : List Scalar} (hargs : ∀ a ∈ args, Assembled rules root a) :
    rules.Wrapped root (.apply kind args) :=
  ⟨kind, args, none, none, rfl, hkind, fun a ha => ha.elim (hargs a) fun h => nomatch h⟩

theorem Wrapped.assembled {root e : Scalar} (h : rules.Wrapped root e) :
    Assembled rules root e := by
  obtain ⟨kind, args, type, filter, rfl, hkind, hchildren⟩ := h
  exact .op hkind hchildren

/-- A node without a rule is not replaced. -/
theorem replaced?_of_not_covers {kind : Operation} (h : rules.covers kind = false)
    (args : List Scalar) (type : Option LogicalType) (filter : Option Scalar) :
    rules.replaced? (.op kind args type filter) = none := by
  have hrule : rules.rule? kind = none := by simpa [covers] using h
  simp [replaced?, replacement?, hrule]

theorem Wraps.of_replaced? (h : rules.Wraps) {e e' : Scalar} (he : rules.replaced? e = some e') :
    (∃ kind args type filter, e' = .op kind args type filter ∧ rules.covers kind = false) ∧
      ∀ a ∈ e'.children, Assembled rules e a := by
  cases e with
  | op kind args type filter =>
    obtain ⟨kind', args', type', filter', rfl, hkind, hchildren⟩ := h _ _ he
    exact ⟨⟨_, _, _, _, rfl, hkind⟩, fun a ha => hchildren a (mem_children_op.1 ha)⟩
  | literal | column | param => cases he

/-! ## Visits -/

/-- An expression with the rule of its root applied, if it has one. -/
def rewritten (rules : RuleSet) (e : Scalar) : Scalar :=
  (rules.replaced? e).getD e

/-- A pass over one expression goes on with another: with an operand or the filter of what its root
is replaced by. -/
def Visits (rules : RuleSet) (e a : Scalar) : Prop :=
  a ∈ (rules.rewritten e).children

theorem rewritten_of_none {e : Scalar} (h : rules.replaced? e = none) : rules.rewritten e = e := by
  rw [rewritten, h, Option.getD_none]

theorem rewritten_of_some {e e' : Scalar} (h : rules.replaced? e = some e') :
    rules.rewritten e = e' := by
  rw [rewritten, h, Option.getD_some]

/-- A pass ends on what is assembled from expressions on which it ends. -/
theorem Assembled.acc {root e : Scalar} (h : Assembled rules root e)
    (hbelow : ∀ p, Below p root → Acc (fun a e => rules.Visits e a) p) :
    Acc (fun a e => rules.Visits e a) e := by
  induction h with
  | part hp => exact hbelow _ hp
  | literal | column | param => exact ⟨_, fun a ha => nomatch ha⟩
  | @op kind args type filter hkind _ ih =>
    refine ⟨_, fun a ha => ?_⟩
    -- the operation has no rule, so its own children are visited
    rw [Visits, rewritten_of_none (replaced?_of_not_covers hkind ..)] at ha
    exact ih a (mem_children_op.1 ha)

/-- A pass ends on every expression. -/
theorem Wraps.wellFounded (h : rules.Wraps) : WellFounded fun a e => rules.Visits e a := by
  -- a replacement is made of what lies below, at any depth
  have hoccurs : ∀ e p, Occurs p e → Acc (fun a e => rules.Visits e a) p := by
    intro e
    induction e using childrenInduct with
    | _ e ih =>
      have hbelow : ∀ p, Below p e → Acc (fun a e => rules.Visits e a) p :=
        fun p ⟨a, ha, hp⟩ => ih a ha p hp
      intro p hp
      rcases occurs_iff.1 hp with rfl | hp
      · refine ⟨_, fun a ha => ?_⟩
        rw [Visits] at ha
        cases hreplaced : rules.replaced? p with
        | none =>
          rw [rewritten_of_none hreplaced] at ha
          exact hbelow a (below_of_mem ha)
        | some e' =>
          rw [rewritten_of_some hreplaced] at ha
          exact ((h.of_replaced? hreplaced).2 a ha).acc hbelow
      · exact hbelow p hp
  exact ⟨fun e => hoccurs e e .here⟩

/-! ## The budget suffices -/

theorem pass_of_none (budget : Nat) {e : Scalar} (h : rules.replaced? e = none) :
    pass rules budget e = e.mapChildren (pass rules budget) := by
  cases e with
  | op kind args type filter => exact pass_of_replacement?_none budget h
  | literal | column | param => cases budget <;> rfl

theorem pass_of_some (budget : Nat) {e e' : Scalar} (h : rules.replaced? e = some e') :
    pass rules (budget + 1) e = e'.mapChildren (pass rules budget) := by
  cases e with
  | op kind args type filter =>
    have hreplaced : rules.replacement? ⟨kind, args, type, filter⟩ = some e' := h
    rw [pass, visit, hreplaced]
  | literal | column | param => cases h

/-- Two budgets that give the same below an expression give the same for what is assembled from
there. -/
theorem Assembled.pass_eq {root e : Scalar} (h : Assembled rules root e) {b b' : Nat}
    (hbelow : ∀ p, Below p root → pass rules b p = pass rules b' p) :
    pass rules b e = pass rules b' e := by
  induction h with
  | part hp => exact hbelow _ hp
  | literal | column | param => cases b <;> cases b' <;> rfl
  | @op kind args type filter hkind _ ih =>
    have hnone := replaced?_of_not_covers hkind args type filter
    rw [pass_of_none b hnone, pass_of_none b' hnone]
    exact mapChildren_congr fun a ha => ih a (mem_children_op.1 ha)

/-- Budgets that are not below the depth give the same. -/
theorem Wraps.pass_eq (h : rules.Wraps) {n : Nat} {e : Scalar} (hdepth : e.depth ≤ n) {b : Nat}
    (hb : n ≤ b) : pass rules b e = pass rules n e := by
  induction n generalizing e b with
  | zero =>
    cases e with
    | op kind args type filter => simp [depth] at hdepth
    | literal | column | param => cases b <;> rfl
  | succ n ih =>
    obtain ⟨b, rfl⟩ : ∃ b', b = b' + 1 := Nat.exists_eq_succ_of_ne_zero (by omega)
    have hbelow : ∀ p, Below p e → p.depth ≤ n := by
      intro p hp
      have := depth_lt_of_below hp
      omega
    cases hreplaced : rules.replaced? e with
    | none =>
      -- a node that stays is passed with the whole budget, and its children are less deep
      rw [pass_of_none _ hreplaced, pass_of_none _ hreplaced]
      refine mapChildren_congr fun a ha => ?_
      have ha' := hbelow a (below_of_mem ha)
      rw [ih ha' (by omega : n ≤ b + 1), ih ha' (Nat.le_succ n)]
    | some e' =>
      rw [pass_of_some _ hreplaced, pass_of_some _ hreplaced]
      refine mapChildren_congr fun a ha => ?_
      exact ((h.of_replaced? hreplaced).2 a ha).pass_eq fun p hp => ih (hbelow p hp) (by omega)

theorem depth_le_budget (rules : RuleSet) (e : Scalar) : e.depth ≤ rules.budget e :=
  Nat.le_mul_of_pos_left _ (Nat.succ_pos _)

/-- Every budget that is not below the depth normalizes. -/
theorem Wraps.pass_eq_normalize (h : rules.Wraps) {e : Scalar} {b : Nat} (hb : e.depth ≤ b) :
    pass rules b e = rules.normalize e := by
  rw [normalize, h.pass_eq (Nat.le_refl _) hb, h.pass_eq (Nat.le_refl _) (depth_le_budget rules e)]

/-- Normalizing is the pass that the visits describe: the rule of the root is applied, and then the
children of the result are normalized. -/
theorem Wraps.normalize_eq (h : rules.Wraps) (e : Scalar) :
    rules.normalize e = (rules.rewritten e).mapChildren rules.normalize := by
  have hbelow : ∀ p, Below p e → p.depth ≤ e.depth :=
    fun p hp => Nat.le_of_lt (depth_lt_of_below hp)
  -- one more than the depth, so that the budget below a replacement is the depth
  rw [← h.pass_eq_normalize (Nat.le_succ e.depth)]
  cases hreplaced : rules.replaced? e with
  | none =>
    rw [rewritten_of_none hreplaced, pass_of_none _ hreplaced]
    refine mapChildren_congr fun a ha => ?_
    exact h.pass_eq_normalize (Nat.le_succ_of_le (hbelow a (below_of_mem ha)))
  | some e' =>
    rw [rewritten_of_some hreplaced, pass_of_some _ hreplaced]
    refine mapChildren_congr fun a ha => ?_
    -- a replacement can be deeper than what it replaces, but not what it is assembled from
    have hlarge : pass rules (max e.depth a.depth) a = pass rules e.depth a :=
      ((h.of_replaced? hreplaced).2 a ha).pass_eq fun p hp =>
        h.pass_eq (hbelow p hp) (Nat.le_max_left ..)
    rw [← hlarge, h.pass_eq_normalize (Nat.le_max_right ..)]

/-! ## Nothing is left -/

/-- Whether a node is replaced depends on its operation and on the number of its operands. -/
theorem replaced?_mapChildren {e : Scalar} (f : Scalar → Scalar) (h : rules.replaced? e = none) :
    rules.replaced? (e.mapChildren f) = none := by
  cases e with
  | literal | column | param => rfl
  | op kind args type filter =>
    have hformed : (Node.mk kind (args.map f) type (filter.map f)).wellFormed =
        (Node.mk kind args type filter).wellFormed := by
      simp only [Node.wellFormed, List.length_map]
    simp only [replaced?, mapChildren, replacement?, hformed] at h ⊢
    split
    · next hwell => simpa [hwell] using h
    · rfl

theorem Wraps.replaced?_rewritten (h : rules.Wraps) (e : Scalar) :
    rules.replaced? (rules.rewritten e) = none := by
  cases hreplaced : rules.replaced? e with
  | none => rw [rewritten_of_none hreplaced, hreplaced]
  | some e' =>
    obtain ⟨⟨kind, args, type, filter, rfl, hkind⟩, -⟩ := h.of_replaced? hreplaced
    rw [rewritten_of_some hreplaced]
    exact replaced?_of_not_covers hkind args type filter

/-- Nothing in a normalized expression is replaced, at whatever depth it is. -/
theorem Wraps.replaced?_of_occurs (h : rules.Wraps) {p e : Scalar}
    (hp : Occurs p (rules.normalize e)) : rules.replaced? p = none := by
  induction e using h.wellFounded.induction with
  | _ e ih =>
    rw [h.normalize_eq] at hp
    rcases occurs_iff.1 hp with rfl | ⟨a, ha, hp⟩
    · exact replaced?_mapChildren _ (h.replaced?_rewritten e)
    · rw [children_mapChildren] at ha
      obtain ⟨b, hb, rfl⟩ := List.mem_map.1 ha
      exact ih b hb hp

/-- An expression in which nothing is replaced is normalized. -/
theorem normalize_eq_self {e : Scalar} (h : ∀ p, Occurs p e → rules.replaced? p = none) :
    rules.normalize e = e := by
  have hpass : ∀ b, pass rules b e = e := by
    intro b
    induction e using childrenInduct with
    | _ e ih =>
      have hchildren : ∀ a ∈ e.children, pass rules b a = id a := fun a ha =>
        ih a ha fun p hp => h p (occurs_iff.2 (.inr ⟨a, ha, hp⟩))
      rw [pass_of_none b (h e .here), mapChildren_congr hchildren, mapChildren_id]
  exact hpass _

theorem Wraps.normalize_normalize (h : rules.Wraps) (e : Scalar) :
    rules.normalize (rules.normalize e) = rules.normalize e :=
  normalize_eq_self fun _ hp => h.replaced?_of_occurs hp

/-- No operation that has a rule is left in an expression, at any depth, apart from those of the
base rules where they have a wrong number of operands. -/
def Cleared (rules : RuleSet) (e : Scalar) : Prop :=
  ∀ kind args type filter, Occurs (.op kind args type filter) e → kind ∈ rules.kinds →
    (kind = .between ∧ args.length ≠ 3) ∨ (kind = .notNull ∧ args.length ≠ 1) ∨
      (kind = .ifNull ∧ args.length ≠ 2)

theorem mem_kinds {op : Operation} : op ∈ rules.kinds ↔ rules.covers op := by
  simp [kinds, Operation.mem_all]

theorem Wraps.cleared_normalize (h : rules.Wraps) (e : Scalar) :
    rules.Cleared (rules.normalize e) := by
  intro kind args type filter hoccurs hkind
  have hkept := h.replaced?_of_occurs hoccurs
  obtain ⟨rule, hrule⟩ := Option.isSome_iff_exists.1 (mem_kinds.1 hkind)
  -- it has a rule and is not replaced, so the rule cannot take it apart
  have hformed : (Node.mk kind args type filter).wellFormed = false := by
    simpa [replaced?, replacement?, hrule] using hkept
  cases kind with
  | between => simpa [Node.wellFormed] using hformed
  | notNull => simpa [Node.wellFormed] using hformed
  | ifNull => simpa [Node.wellFormed] using hformed
  | _ => cases hformed

/-! ## Extensions -/

theorem rule?_insert (rules : RuleSet) (op : Operation) (rule : Rule) (o : Operation) :
    (rules.insert op rule).rule? o = if o = op then some rule else rules.rule? o := rfl

/-- The rule of an operation in an extended set: the last one that is given for it, or else the one
that it had. -/
theorem rule?_extend (rules : RuleSet) (extra : List (Operation × Rule)) (op : Operation) :
    (rules.extend extra).rule? op = (extra.reverse.lookup op).or (rules.rule? op) :=
  get_foldl_insert rule?_insert extra rules op

/-- The operations with a rule in an extended set. -/
theorem mem_kinds_extend {extra : List (Operation × Rule)} {op : Operation} :
    op ∈ (rules.extend extra).kinds ↔ op ∈ rules.kinds ∨ op ∈ extra.map Prod.fst := by
  rw [mem_kinds, mem_kinds, covers, rule?_extend, covers, Option.isSome_or, Bool.or_eq_true,
    isSome_lookup_reverse]
  exact or_comm

/-- The base rules with further ones, if all rules of the set wrap. No chain of visits goes on
forever, and `normalize` applies the rule of the root and goes on with what is visited. Afterwards
nothing is left that a rule could take apart, and a second pass changes nothing, in expressions and
in relations. The set has the last rule that is given for an operation, or else the base rule. -/
theorem extend_normalizes (extra : List (Operation × Rule)) (h : (base.extend extra).Wraps) :
    let rules := base.extend extra
    (∀ visits : Nat → Scalar, ¬ ∀ n, rules.Visits (visits n) (visits (n + 1))) ∧
    (∀ e, rules.normalize e = (rules.rewritten e).mapChildren rules.normalize) ∧
    (∀ e, rules.Cleared (rules.normalize e)) ∧
    (∀ e, rules.normalize (rules.normalize e) = rules.normalize e) ∧
    (∀ r, (rules.normalizeRelation r).expressions = r.expressions.map rules.normalize ∧
      (∀ e ∈ (rules.normalizeRelation r).expressions, rules.Cleared e) ∧
      rules.normalizeRelation (rules.normalizeRelation r) = rules.normalizeRelation r) ∧
    (∀ op, rules.rule? op = (extra.reverse.lookup op).or (base.rule? op)) ∧
    (∀ op, op ∈ rules.kinds ↔ op ∈ base.kinds ∨ op ∈ extra.map Prod.fst) := by
  intro rules
  refine ⟨?_, h.normalize_eq, h.cleared_normalize, h.normalize_normalize, ?_,
    rule?_extend base extra, fun op => mem_kinds_extend⟩
  · intro visits hvisits
    exact (wellFounded_iff_isEmpty_descending_chain.1 h.wellFounded).false ⟨visits, hvisits⟩
  · intro r
    have hexpressions :
        (rules.normalizeRelation r).expressions = r.expressions.map rules.normalize :=
      Relation.expressions_mapExpressions rules.normalize r
    refine ⟨hexpressions, ?_, ?_⟩
    · rw [hexpressions]
      intro e he
      obtain ⟨e', -, rfl⟩ := List.mem_map.1 he
      exact h.cleared_normalize e'
    · unfold normalizeRelation
      rw [Relation.mapExpressions_mapExpressions]
      simp only [rules, h.normalize_normalize]

/-- Two rules for `hash`, of which the later one counts, and one for `if_null` over the base rule
that repeats an operand, on an expression where all of them fire inside one another. -/
theorem extend_normalizes_nested_rules :
    let toChoice : Rule := fun node =>
      match node.args with
      | [x, y] => .apply .choose [.apply .isNull [x], y, x]
      | args => .apply .coalesce args
    let extra : List (Operation × Rule) :=
      [(.hash, fun node => .apply .between node.args), (.ifNull, toChoice),
        (.hash, fun node => .apply .length node.args)]
    let rules := base.extend extra
    let a : Scalar := .param "a" .string
    let e : Scalar := .apply .ifNull [.apply .hash [.apply .ifNull [a, a]], .apply .notNull [a]]
    let inner : Scalar := .apply .length [.apply .choose [.apply .isNull [a], a, a]]
    rules.Wraps ∧
      rules.normalize e =
        .apply .choose [.apply .isNull [inner], (Scalar.apply .isNull [a]).not, inner] ∧
      rules.Cleared (rules.normalize e) ∧
      rules.normalize (rules.normalize e) = rules.normalize e ∧
      Operation.hash ∈ rules.kinds := by
  intro toChoice extra rules a e inner
  have hwraps : rules.Wraps := by
    rintro ⟨kind, args, type, filter⟩ result hresult
    show rules.Wrapped (.op kind args type filter) result
    have hoperand : ∀ x ∈ args, Assembled rules (.op kind args type filter) x :=
      fun x hx => .part (below_of_mem (mem_children_op.2 (.inl hx)))
    cases kind with
    | between =>
      obtain ⟨x, lo, hi, rfl⟩ : ∃ x lo hi, args = [x, lo, hi] := by
        refine List.length_eq_three.1 (by_contra fun hlength => ?_)
        simp [replacement?, Node.wellFormed, hlength] at hresult
      cases hresult
      have hlow : Assembled rules (.op .between [x, lo, hi] type filter) (x.atLeast lo) :=
        (wrapped_apply rfl (by simp [hoperand])).assembled
      have hhigh : Assembled rules (.op .between [x, lo, hi] type filter) (x.atMost hi) :=
        (wrapped_apply rfl (by simp [hoperand])).assembled
      exact wrapped_apply rfl (by simp [hlow, hhigh])
    | notNull =>
      obtain ⟨-, hresult⟩ := Option.ite_none_right_eq_some.1 hresult
      cases hresult
      have htest : Assembled rules (.op .notNull args type filter) (.apply .isNull args) :=
        (wrapped_apply rfl hoperand).assembled
      exact wrapped_apply rfl (by simp [htest])
    | ifNull =>
      obtain ⟨x, y, rfl⟩ : ∃ x y, args = [x, y] := by
        refine List.length_eq_two.1 (by_contra fun hlength => ?_)
        simp [replacement?, Node.wellFormed, hlength] at hresult
      cases hresult
      have htest : Assembled rules (.op .ifNull [x, y] type filter) (.apply .isNull [x]) :=
        (wrapped_apply rfl (by simp [hoperand])).assembled
      exact wrapped_apply rfl (by simp [htest, hoperand])
    | hash =>
      cases hresult
      exact wrapped_apply rfl hoperand
    | _ => cases hresult
  obtain ⟨-, -, hcleared, htwice, -, -, hkinds⟩ := extend_normalizes extra hwraps
  exact ⟨hwraps, rfl, hcleared e, htwice e, (hkinds .hash).2 (.inr (by decide))⟩

end RuleSet

end TransactSql
