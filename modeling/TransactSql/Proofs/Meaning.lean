import TransactSql.Proofs.Normalization

/-!
# The base rules keep the meaning

What an expression means is left open here: an interpretation is any choice of values for leaves
and of functions for operations. The one condition is that `between`, `not_null` and `if_null` mean
what the base rules write for them. Under every such interpretation an expression and its normal
form have the same value, and a relation and its normal form differ in nothing but expressions of
equal value.

The pass looks at operands that a rule has built and copied, which are no parts of the expression
that it was given. So the proof does not follow the pass: one step keeps the value, and an
expression reaches its normal form in steps.
-/

open Relation (ReflTransGen)

namespace TransactSql

universe u

/-- A value for every leaf, and for every operation a function of its explicit type, of the values
of its operands and of the value of its filter, if it has one. -/
structure Interpretation (V : Type u) where
  literal : Value → Option LogicalType → V
  column : TableName → String → Option LogicalType → V
  param : String → LogicalType → V
  op : Operation → Option LogicalType → List V → Option V → V

namespace Interpretation

variable {V : Type u} (I : Interpretation V)

/-- An operation without an explicit type and without a filter. -/
def apply (kind : Operation) (args : List V) : V :=
  I.op kind none args none

/-- The operations of the base rules mean what the rules write for them, whatever type and filter
they are given. -/
structure Respects : Prop where
  between : ∀ type filter x lo hi, I.op .between type [x, lo, hi] filter =
    I.apply .and [I.apply .greaterEqual [x, lo], I.apply .lessEqual [x, hi]]
  notNull : ∀ type filter x, I.op .notNull type [x] filter = I.apply .not [I.apply .isNull [x]]
  ifNull : ∀ type filter x y, I.op .ifNull type [x, y] filter = I.apply .coalesce [x, y]

mutual

/-- The value of an expression. -/
def eval : Scalar → V
  | .literal value type => I.literal value type
  | .column table name type => I.column table name type
  | .param name type => I.param name type
  | .op kind args type filter => I.op kind type (evalArgs args) (evalFilter filter)

/-- The values of operands. -/
def evalArgs : List Scalar → List V
  | [] => []
  | arg :: rest => eval arg :: evalArgs rest

/-- The value of a filter. -/
def evalFilter : Option Scalar → Option V
  | none => none
  | some filter => some (eval filter)

end

theorem evalArgs_eq_map (args : List Scalar) : I.evalArgs args = args.map I.eval := by
  induction args with
  | nil => rfl
  | cons arg rest ih => rw [evalArgs, ih, List.map_cons]

theorem eval_op (kind : Operation) (args : List Scalar) (type : Option LogicalType)
    (filter : Option Scalar) :
    I.eval (.op kind args type filter) =
      I.op kind type (args.map I.eval) (filter.map I.eval) := by
  have hfilter : I.evalFilter filter = filter.map I.eval := by
    cases filter <;> rfl
  rw [eval, evalArgs_eq_map, hfilter]

theorem eval_apply (kind : Operation) (args : List Scalar) :
    I.eval (.apply kind args) = I.apply kind (args.map I.eval) :=
  I.eval_op kind args none none

variable {I}

/-- One step, at any depth, keeps the value of the whole expression. -/
theorem eval_eq_of_step (hI : I.Respects) {e e' : Scalar} (h : Scalar.Step e e') :
    I.eval e' = I.eval e := by
  induction h with
  | between x lo hi type filter =>
    rw [eval_op]
    show I.eval ((x.atLeast lo).and (x.atMost hi)) = _
    rw [Scalar.and, eval_apply]
    simp only [List.map_cons, List.map_nil, Scalar.atLeast, Scalar.atMost, eval_apply]
    rw [hI.between]
  | notNull x type filter =>
    rw [eval_op]
    show I.eval (Scalar.not (.apply .isNull [x])) = _
    rw [Scalar.not, eval_apply]
    simp only [List.map_cons, List.map_nil, eval_apply]
    rw [hI.notNull]
  | ifNull x y type filter =>
    rw [eval_op]
    show I.eval (.apply .coalesce [x, y]) = _
    rw [eval_apply]
    exact (hI.ifNull _ _ _ _).symm
  -- an operation sees no more of an operand or a filter than its value
  | operand before after _ ih => simp only [eval_op, List.map_append, List.map_cons, ih]
  | filter _ ih => simp only [eval_op, Option.map_some, ih]

theorem eval_eq_of_steps (hI : I.Respects) {e e' : Scalar} (h : ReflTransGen Scalar.Step e e') :
    I.eval e' = I.eval e := by
  induction h with
  | refl => rfl
  | tail _ hstep ih => exact (eval_eq_of_step hI hstep).trans ih

/-- Applying the base rules keeps the value. -/
theorem eval_normalize (hI : I.Respects) (e : Scalar) :
    I.eval (RuleSet.base.normalize e) = I.eval e := by
  rw [RuleSet.normalize_eq_normalForm]
  exact eval_eq_of_steps hI (Scalar.steps_normalForm e)

end Interpretation

/-- Under every interpretation that respects the base rules, normalizing keeps the value of every
expression. A normalized relation has the tables, names, directions, limits and kinds of joins
that the relation has, and expressions at the same place have the same value. -/
theorem base_normalize_keeps_meaning {V : Type u} (I : Interpretation V) (hI : I.Respects) :
    (∀ e : Scalar, I.eval (RuleSet.base.normalize e) = I.eval e) ∧
    (∀ r : Relation, r.Matches (fun e e' => I.eval e' = I.eval e)
      (RuleSet.base.normalizeRelation r)) := by
  have hvalue : ∀ e : Scalar, I.eval (RuleSet.base.normalize e) = I.eval e :=
    fun e => Interpretation.eval_normalize hI e
  exact ⟨hvalue, Relation.matches_mapExpressions hvalue⟩

/-! ## An interpretation with null -/

namespace Interpretation

/-- A truth value as a number. -/
def truth (b : Bool) : Int :=
  if b then 1 else 0

/-- A comparison, which is null where one side is. -/
def compared (test : Int → Int → Bool) : Option Int → Option Int → Option Int
  | some x, some y => some (truth (test x y))
  | _, _ => none

/-- A conjunction, which is false as soon as one side is. -/
def both : Option Int → Option Int → Option Int
  | some 0, _ | _, some 0 => some 0
  | some _, some _ => some 1
  | _, _ => none

/-- Whether a number lies between bounds: one bound that it fails is enough for false. -/
def within : Option Int → Option Int → Option Int → Option Int
  | some x, some lo, some hi => some (truth (lo ≤ x && x ≤ hi))
  | some x, some lo, none => if x < lo then some 0 else none
  | some x, none, some hi => if hi < x then some 0 else none
  | _, _, _ => none

/-- Whole numbers and null, with truth values as numbers and conditions that can be unknown.
Everything but whole numbers is null. -/
def threeValued : Interpretation (Option Int) where
  literal
    | .int n, _ => some n.toInt
    | _, _ => none
  column _ _ _ := none
  param _ _ := none
  op kind _ args _ :=
    match kind, args with
    | .greaterEqual, [x, y] => compared (fun x y => y ≤ x) x y
    | .lessEqual, [x, y] => compared (fun x y => x ≤ y) x y
    | .and, [x, y] => both x y
    | .not, [x] => x.map (1 - ·)
    | .isNull, [x] => some (truth x.isNone)
    | .coalesce, [x, y] => x.or y
    | .between, [x, lo, hi] => within x lo hi
    | .notNull, [x] => some (truth x.isSome)
    | .ifNull, [x, y] => if x.isSome then x else y
    | _, _ => none

theorem within_eq_both (x lo hi : Option Int) :
    within x lo hi =
      both (compared (fun x y => y ≤ x) x lo) (compared (fun x y => x ≤ y) x hi) := by
  cases x with
  | none => cases lo <;> cases hi <;> rfl
  | some x =>
    cases lo with
    | none =>
      cases hi with
      | none => rfl
      | some hi => by_cases h : x ≤ hi <;> simp [within, both, compared, truth, h]
    | some lo =>
      cases hi with
      | none => by_cases h : lo ≤ x <;> simp [within, both, compared, truth, h]
      | some hi =>
        by_cases hlo : lo ≤ x <;> by_cases hhi : x ≤ hi <;>
          simp [within, both, compared, truth, hlo, hhi]

theorem threeValued_respects : threeValued.Respects where
  between _ _ x lo hi := within_eq_both x lo hi
  notNull _ _ x := by cases x <;> rfl
  ifNull _ _ x y := by cases x <;> rfl

end Interpretation

/-- Seven, put in for a null, is not between ten and null, before and after normalizing. -/
theorem base_normalize_keeps_meaning_of_null :
    let I := Interpretation.threeValued
    let null : Scalar := .param "x" .int64
    let e : Scalar := .apply .between [.apply .ifNull [null, .ofValue (.int 7)],
      .ofValue (.int 10), null]
    let r : Relation := .selection (.table ⟨⟨none, "t"⟩, []⟩)
      { projections := [⟨"e", e⟩], predicates := [e] }
    I.Respects ∧ I.eval e = some 0 ∧ I.eval (RuleSet.base.normalize e) = some 0 ∧
      r.Matches (fun e e' => I.eval e' = I.eval e) (RuleSet.base.normalizeRelation r) := by
  intro I null e r
  obtain ⟨hexpr, hrelation⟩ := base_normalize_keeps_meaning I Interpretation.threeValued_respects
  have hvalue : I.eval e = some 0 := by decide
  exact ⟨Interpretation.threeValued_respects, hvalue, (hexpr e).trans hvalue, hrelation r⟩

end TransactSql
