import TransactSql.Proofs.Normalization
import TransactSql.Proofs.Threading

/-!
# Types of normalized expressions

Lowering asks for the type of an expression after the rules were applied: whether it can be a
condition, and whether a reduction has to cast it. The rules put other operations in the place of a
node, and these have no explicit type.

As long as an explicit type of a replaced node says what is inferred without it, the rules keep the
type of every expression (`outputType_normalize`). A different one is lost: a condition that is a
truth value by its explicit type only is refused (`explicit_type_of_ifNull_is_lost`).
-/

namespace TransactSql

open Lower (checkRole reduced)

namespace Scalar

variable {kind : Operation} {args : List Scalar} {type : Option LogicalType}
  {filter : Option Scalar}

/-! ## Where types come from -/

/-- An expression decides the type of another one: it is that expression, or it decides the type of
the operand from which the type is inferred. Beyond an explicit type nothing decides, unless it is
the type of a node that the rules replace. -/
inductive Decides (p : Scalar) : Scalar → Prop
  | here : Decides p p
  | operand {kind : Operation} {args : List Scalar} {type : Option LogicalType}
      {filter : Option Scalar} {i : Nat} {a : Scalar} (hresult : kind.resultType = .ofOperand i)
      (ha : args[i]? = some a) (htype : type = none ∨ (Node.mk kind args type filter).isRedex)
      (h : Decides p a) : Decides p (.op kind args type filter)

/-- Of the nodes that decide the type, those which the rules replace have no explicit type but the
one that is inferred without it. -/
def TypesAgree (e : Scalar) : Prop :=
  ∀ kind args type filter, Decides (.op kind args type filter) e →
    (Node.mk kind args type filter).isRedex →
      type = none ∨ type = (op kind args none filter).outputType

/-- What agrees in an operation agrees in the operand that decides its type. -/
theorem TypesAgree.operand {i : Nat} {a : Scalar} (h : (op kind args type filter).TypesAgree)
    (hresult : kind.resultType = .ofOperand i) (ha : args[i]? = some a)
    (htype : type = none ∨ (Node.mk kind args type filter).isRedex) : a.TypesAgree :=
  fun k as t f hdecides => h k as t f (.operand hresult ha htype hdecides)

/-- The explicit type of a replaced node can be left out. -/
theorem TypesAgree.outputType_eq (h : (op kind args type filter).TypesAgree)
    (hredex : (Node.mk kind args type filter).isRedex) :
    (op kind args type filter).outputType = (op kind args none filter).outputType := by
  rcases h kind args type filter .here hredex with rfl | htype
  · rfl
  · cases type with
    | none => rfl
    | some t => rw [← htype, outputType]

/-! ## Rules keep types -/

/-- The type of a node follows from its operation and from the type of the operand that it asks for,
so it is kept if that type is. -/
theorem outputType_map {filter' : Option Scalar} {f : Scalar → Scalar}
    (h : ∀ i a, kind.resultType = .ofOperand i → args[i]? = some a →
      (f a).outputType = a.outputType) :
    (op kind (args.map f) none filter').outputType = (op kind args none filter).outputType := by
  rw [outputType_op_none, outputType_op_none]
  cases hresult : kind.resultType with
  | fixed t => rfl
  | ofOperand i =>
    simp only [List.getElem?_map]
    cases ha : args[i]? with
    | none => rfl
    | some a => exact h i a hresult ha

/-- The rules keep the type of an expression in which explicit types agree with them. -/
theorem TypesAgree.outputType_normalForm {e : Scalar} (h : e.TypesAgree) :
    e.normalForm.outputType = e.outputType := by
  induction e using induct with
  | literal | column | param => rfl
  | op kind args type filter ihargs _ =>
    have hoperand : ∀ i a, type = none ∨ (Node.mk kind args type filter).isRedex →
        kind.resultType = .ofOperand i → args[i]? = some a →
        a.normalForm.outputType = a.outputType :=
      fun i a htype hresult ha =>
        ihargs a (List.mem_of_getElem? ha) (h.operand hresult ha htype)
    cases hredex : (Node.mk kind args type filter).isRedex with
    | true =>
      rw [h.outputType_eq hredex, normalForm_op]
      obtain ⟨x, lo, hi, rfl, rfl⟩ | ⟨x, rfl, rfl⟩ | ⟨x, y, rfl, rfl⟩ := isRedex_cases hredex
      -- a conjunction and a negation are predicates, as what they replace
      · rfl
      · rfl
      · -- `coalesce` has the type of its first operand, as `ifNull` has
        exact hoperand 0 x (.inr hredex) rfl rfl
    | false =>
      rw [normalForm_of_not_isRedex hredex]
      cases type with
      | some t => rfl
      | none => exact outputType_map fun i a => hoperand i a (.inl rfl)

end Scalar

namespace RuleSet

open Scalar

/-- The rules keep the type of an expression, if the explicit types of the nodes that they replace
and that decide it agree with what is inferred. Then they change neither whether the expression is
accepted as a condition nor what a reduction makes of it. -/
theorem outputType_normalize (e : Scalar) (h : e.TypesAgree) :
    (base.normalize e).outputType = e.outputType ∧
    (checkRole .condition (base.normalize e) = .ok () ↔ checkRole .condition e = .ok ()) ∧
    (∀ boolCast x filter,
      reduced boolCast (base.normalize e) x filter = reduced boolCast e x filter) := by
  have htype : (base.normalize e).outputType = e.outputType := by
    rw [normalize_eq_normalForm, h.outputType_normalForm]
  refine ⟨htype, ?_, ?_⟩
  · simp only [checkRole, htype]
    split <;> simp
  · intro boolCast x filter
    simp only [reduced, htype]

/-- A type that is inferred from a node with the explicit type that it has anyway, through a node
without one; the type of a node that the rules do not replace can be any. -/
theorem outputType_normalize_of_nested :
    let flag : Scalar := .column ⟨none, "t"⟩ "flag" (some .boolean)
    let inner : Scalar := .op .ifNull [flag, .op .now [] (some .uuid) none] (some .boolean) none
    let e : Scalar := .op .coalesce [inner] none none
    e.TypesAgree ∧ (base.normalize e).outputType = some .boolean ∧
      e.outputType = some .boolean := by
  intro flag inner e
  have hagree : e.TypesAgree := by
    intro kind args type filter hdecides hredex
    -- `coalesce` is not replaced, and asks for the type of its first operand
    change Decides _ (.op .coalesce [.op .ifNull [.column _ _ _, _] _ _] none none) at hdecides
    cases hdecides with
    | here => cases hredex
    | operand hresult ha _ hdecides =>
      cases hresult
      cases ha
      cases hdecides with
      | here => exact .inr rfl
      | operand hresult ha _ hdecides =>
        cases hresult
        cases ha
        cases hdecides
  exact ⟨hagree, (outputType_normalize e hagree).1, rfl⟩

/-- A fallback for the null, with an explicit type that nothing else gives. The rules drop the type:
what was accepted as a condition is refused, where `coalesce` with the same type is not. -/
theorem explicit_type_of_ifNull_is_lost :
    let table : TableName := ⟨none, "functional_alltypes"⟩
    let branches : List Scalar := [.literal .null none, .column table "bool_col" (some .boolean)]
    let e : Scalar := .op .ifNull branches (some .boolean) none
    let filtered : Scalar → Query := fun p =>
      .relation (.selection (.table ⟨table, []⟩) { predicates := [p] })
    e.outputType = some .boolean ∧ (base.normalize e).outputType = none ∧
    checkRole .condition e = .ok () ∧
    (∃ cause, compile (filtered e) .empty = .error (.invalidExpression (.notCondition cause))) ∧
    (∃ c, compile (filtered (.op .coalesce branches (some .boolean) none)) .empty = .ok c) :=
  ⟨rfl, rfl, rfl, ⟨_, rfl⟩, ⟨_, rfl⟩⟩

end RuleSet

end TransactSql
