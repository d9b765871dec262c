import Mathlib
import TransactSql.Proofs.Composition
import TransactSql.Proofs.Inference
import TransactSql.Proofs.Resolution

/-!
# Bits in aggregate functions

Aggregate functions refuse bits, so the operand of a reduction is cast if it is a truth value.
Whether it is one is inferred from the expression before it is lowered, while the server looks at
all branches of what is written.

The two agree where the branch that decides the type of an operand is not the bare null, which has
no type: then no aggregate function of a statement is given a bit (`no_bits_in_aggregates`). Where
the deciding branch is null, the operand is taken for something without a type and written as it is,
although it is a bit (`bit_in_sum_of_null_first`).
-/

namespace TransactSql

open Sql (Expr Literal BinaryOp UnaryOp Select TableRef)

/-! ## Operands of reductions -/

namespace Scalar

/-- The types of the operands of all reductions in an expression are decided. -/
def OperandsDecided (e : Scalar) : Prop :=
  ∀ node : Node, Occurs node.toScalar e → node.kind.isReduction → ∀ a ∈ node.args, a.typeDecided

variable {kind : Operation} {args : List Scalar} {type : Option LogicalType}
  {filter : Option Scalar}

theorem operandsDecided_op :
    (op kind args type filter).OperandsDecided ↔
      (kind.isReduction → ∀ a ∈ args, a.typeDecided) ∧ (∀ a ∈ args, a.OperandsDecided) ∧
        ∀ f ∈ filter, f.OperandsDecided := by
  constructor
  · intro h
    refine ⟨h ⟨kind, args, type, filter⟩ .here, ?_, ?_⟩
    · intro a ha node hnode
      exact h node (.operand ha hnode)
    · rintro f ⟨⟩ node hnode
      exact h node (.filter hnode)
  · rintro ⟨hhere, hargs, hfilter⟩ node hnode
    cases hnode with
    | here => exact hhere
    | operand ha hnode => exact hargs _ ha node hnode
    | filter hnode => exact hfilter _ rfl node hnode

/-- A node without a type and a filter. -/
theorem operandsDecided_apply :
    (apply kind args).OperandsDecided ↔
      (kind.isReduction → ∀ a ∈ args, a.typeDecided) ∧ ∀ a ∈ args, a.OperandsDecided := by
  rw [apply, operandsDecided_op]
  simp

@[simp]
theorem operandsDecided_literal (value : Value) : (literal value type).OperandsDecided := by
  rintro node ⟨⟩

@[simp]
theorem operandsDecided_column (table : TableName) (name : String) :
    (column table name type).OperandsDecided := by
  rintro node ⟨⟩

/-- The rules keep reductions and the decided types of their operands. -/
theorem OperandsDecided.normalForm {e : Scalar} (h : e.OperandsDecided) :
    e.normalForm.OperandsDecided := by
  induction e using induct with
  | literal value type => exact h
  | column table name type => exact h
  | param name type => exact h
  | op kind args type filter ihargs ihfilter =>
    obtain ⟨hnode, hargs, hfilter⟩ := operandsDecided_op.1 h
    have hoperands : ∀ a ∈ args, a.normalForm.OperandsDecided :=
      fun a ha => ihargs a ha (hargs a ha)
    by_cases hredex : (Node.mk kind args type filter).isRedex
    · -- what a rule makes of a node is no reduction, and has the operands of the node
      obtain ⟨x, lo, hi, rfl, rfl⟩ | ⟨x, rfl, rfl⟩ | ⟨x, y, rfl, rfl⟩ := isRedex_cases hredex
      · have hx := hoperands x (by simp)
        have hlo := hoperands lo (by simp)
        have hhi := hoperands hi (by simp)
        show ((x.normalForm.atLeast lo.normalForm).and
          (x.normalForm.atMost hi.normalForm)).OperandsDecided
        simp [Scalar.and, atLeast, atMost, operandsDecided_apply, Operation.isReduction, hx, hlo,
          hhi]
      · have hx := hoperands x (by simp)
        show (Scalar.not (apply .isNull [x.normalForm])).OperandsDecided
        simp [Scalar.not, operandsDecided_apply, Operation.isReduction, hx]
      · have hx := hoperands x (by simp)
        have hy := hoperands y (by simp)
        show (apply .coalesce [x.normalForm, y.normalForm]).OperandsDecided
        simp [operandsDecided_apply, Operation.isReduction, hx, hy]
    · rw [normalForm_of_not_isRedex (Bool.eq_false_iff.2 hredex), operandsDecided_op]
      refine ⟨?_, List.forall_mem_map.2 hoperands, ?_⟩
      · intro hreduction
        exact List.forall_mem_map.2 fun a ha => typeDecided_normalForm (hnode hreduction a ha)
      · intro f hf
        obtain ⟨g, hg, rfl⟩ := Option.map_eq_some_iff.1 hf
        exact ihfilter g hg (hfilter g hg)

end Scalar

/-! ## Aggregate functions -/

namespace Sql.Expr

variable (types : Expr → Option NativeType)

/-- Whether an expression is anything but an aggregate function of a bit. -/
def takesNoBit : Expr → Bool
  | .call name args _ => name ∉ Semantics.aggregates || args.all (!·.isBit types)
  | _ => true

/-- No aggregate function in an expression is given a bit. -/
def NoBits (x : Expr) : Prop :=
  ∀ y ∈ x.subterms, y.takesNoBit types

variable {types}

@[simp]
theorem noBits_literal (l : Literal) : (literal l).NoBits types := by
  simp [NoBits, subterms, takesNoBit]

@[simp]
theorem noBits_int (n : Int64) : (int n).NoBits types :=
  noBits_literal _

theorem noBits_column (table : Option String) (name : String) :
    (column table name).NoBits types := by
  simp [NoBits, subterms, takesNoBit]

theorem noBits_param (name : String) : (param name).NoBits types := by
  simp [NoBits, subterms, takesNoBit]

@[simp]
theorem noBits_raw (text : String) : (raw text).NoBits types := by
  simp [NoBits, subterms, takesNoBit]

theorem noBits_star (table : Option String) : (star table).NoBits types := by
  simp [NoBits, subterms, takesNoBit]

@[simp]
theorem noBits_binary {x y : Expr} {op : BinaryOp} :
    (binary x op y).NoBits types ↔ x.NoBits types ∧ y.NoBits types := by
  simp [NoBits, subterms, takesNoBit, or_imp, forall_and]

@[simp]
theorem noBits_unary {x : Expr} {op : UnaryOp} : (unary op x).NoBits types ↔ x.NoBits types := by
  simp [NoBits, subterms, takesNoBit]

@[simp]
theorem noBits_cast {x : Expr} {type : String} : (cast x type).NoBits types ↔ x.NoBits types := by
  simp [NoBits, subterms, takesNoBit]

@[simp]
theorem noBits_paren {x : Expr} : (paren x).NoBits types ↔ x.NoBits types := by
  simp [NoBits, subterms, takesNoBit]

@[simp]
theorem noBits_isNull {x : Expr} {negated : Bool} :
    (isNull x negated).NoBits types ↔ x.NoBits types := by
  simp [NoBits, subterms, takesNoBit]

@[simp]
theorem noBits_isIn {x : Expr} {values : List Expr} {negated : Bool} :
    (isIn x values negated).NoBits types ↔ x.NoBits types ∧ ∀ v ∈ values, v.NoBits types := by
  simp only [NoBits, subterms, subtermsOfList_eq_flatMap, List.forall_mem_cons,
    List.forall_mem_append, List.forall_mem_flatMap, takesNoBit, true_and]

@[simp]
theorem noBits_caseWhen {c x y : Expr} :
    (caseWhen c x y).NoBits types ↔ c.NoBits types ∧ x.NoBits types ∧ y.NoBits types := by
  simp [NoBits, caseWhen, subterms, subtermsOfOption, subtermsOfBranches, takesNoBit, or_imp,
    forall_and]

@[simp]
theorem noBits_function {name : String} {args : List Expr} :
    (function name args).NoBits types ↔
      (name ∈ Semantics.aggregates → ∀ a ∈ args, a.isBit types = false) ∧
        ∀ a ∈ args, a.NoBits types := by
  simp only [NoBits, function, subterms, subtermsOfList_eq_flatMap, List.forall_mem_cons,
    List.forall_mem_flatMap, takesNoBit]
  simp [imp_iff_not_or]

@[simp]
theorem noBits_nested {x : Expr} : x.nested.NoBits types ↔ x.NoBits types := by
  unfold nested
  split <;> simp

@[simp]
theorem noBits_minusOperand {x : Expr} :
    (Lower.minusOperand x).NoBits types ↔ x.NoBits types := by
  unfold Lower.minusOperand
  split <;> simp

end Sql.Expr

namespace Lower

variable {aliases : Aliases} {handler : Handler} {types : Expr → Option NativeType}

/-- The operand of a reduction is no bit: either it is none as it was lowered, or it is cast. -/
theorem isBit_of_reduced {boolCast : LogicalType} {operand : Scalar} {e x : Expr}
    {filter : Option Expr} (hcast : boolCast ≠ .boolean)
    (hinferred : e.isBit types → operand.outputType = some .boolean)
    (h : reduced (some boolCast) operand e filter = .ok x) : x.isBit types = false := by
  obtain ⟨value, hvalue, rfl⟩ := reduced_eq_ok.1 h
  have hbit : value.isBit types = false := by
    refine Bool.eq_false_iff.2 fun hbit => ?_
    split at hvalue
    · exact hcast (boolean_of_castTo hvalue hbit)
    · next hother =>
      cases hvalue
      exact hother (hinferred hbit)
  cases filter with
  | none => exact hbit
  | some c => exact Expr.isBit_caseWhen_null c value hbit

theorem noBits_of_castTo {e x : Expr} {type : LogicalType} (h : castTo e type = .ok x)
    (he : e.NoBits types) : x.NoBits types := by
  obtain ⟨native, -, rfl⟩ := castTo_eq_ok.1 h
  exact Expr.noBits_cast.2 he

theorem noBits_of_reduced {boolCast : Option LogicalType} {operand : Scalar} {e x : Expr}
    {filter : Option Expr} (he : e.NoBits types) (hfilter : ∀ c ∈ filter, c.NoBits types)
    (h : reduced boolCast operand e filter = .ok x) : x.NoBits types := by
  obtain ⟨value, hvalue, rfl⟩ := reduced_eq_ok.1 h
  have hbits : value.NoBits types := by
    split at hvalue
    · cases boolCast with
      | none =>
        cases hvalue
        exact he
      | some type => exact noBits_of_castTo hvalue he
    · cases hvalue
      exact he
  cases filter with
  | none => exact hbits
  | some c => exact Expr.noBits_caseWhen.2 ⟨hfilter c rfl, hbits, Expr.noBits_literal _⟩

/-- What a handler puts together gives no aggregate function a bit, if no operand does and the
operand of a reduction is inferred to be a truth value where it is a bit. -/
theorem noBits_of_assemble {node : Node} {operands : List Expr} {filter : Option Expr} {x : Expr}
    (hminds : handler.mindsBits node.kind) (hoperands : ∀ o ∈ operands, o.NoBits types)
    (hfilter : ∀ c ∈ filter, c.NoBits types)
    (hinferred : ∀ name boolCast arg o, handler = .reduction name boolCast → node.args = [arg] →
      operands = [o] → o.isBit types → arg.outputType = some .boolean)
    (h : assemble node handler operands filter = .ok x) : x.NoBits types := by
  cases handler with
  | unary name | fixed name n | variadic name =>
    cases h
    simp only [Handler.mindsBits, Bool.and_eq_true, decide_eq_true_eq] at hminds
    exact Expr.noBits_function.2 ⟨fun hname => absurd hname hminds.1, hoperands⟩
  | binary op =>
    simp only [assemble] at h
    split at h
    · cases h
      simpa using hoperands
    · cases h
  | reduction name boolCast =>
    simp only [assemble] at h
    split at h
    · next arg o hargs =>
      obtain ⟨y, hy, h⟩ := exceptBind_eq_ok.1 h
      cases h
      have ho := hoperands o (by simp)
      simp only [Handler.mindsBits, Bool.and_eq_true] at hminds
      cases boolCast with
      | none => cases hminds.2
      | some type =>
        -- only here an aggregate function is called, and its argument is cast if it is a bit
        have htype : type ≠ .boolean := by simpa using hminds.2
        have hbit := isBit_of_reduced htype (hinferred name _ arg o rfl hargs rfl) hy
        have hbits := noBits_of_reduced ho hfilter hy
        simp [hbit, hbits]
    · cases h
  | special form =>
    cases form with
    | cast =>
      simp only [assemble] at h
      split at h
      · exact noBits_of_castTo h (hoperands _ (by simp))
      · cases h
    | datePart part =>
      simp only [assemble] at h
      split at h
      · refine noBits_of_castTo h (Expr.noBits_function.2 ⟨?_, by simpa using hoperands⟩)
        exact fun hname => absurd hname (by decide)
      · cases h
    | substring =>
      simp only [assemble] at h
      split at h
      · next start _ _ lowered length _ =>
        cases h
        -- a literal position is counted on and stays a literal, any other gets one added
        have hposition : lowered.NoBits types → (position start lowered).NoBits types := by
          intro hlowered
          unfold position
          split
          · exact Expr.noBits_int _
          · simpa using hlowered
        refine Expr.noBits_function.2 ⟨fun hname => absurd hname (by decide), ?_⟩
        simp only [List.forall_mem_cons] at hoperands ⊢
        exact ⟨hoperands.1, hposition hoperands.2.1, hoperands.2.2⟩
      · cases h
    | find | choice | floorDivide | membership | connective | negation | nullTest | minus =>
      simp only [assemble] at h
      split at h
      · cases h
        simp_all [Semantics.aggregates]
      · cases h
  | unsupported => cases h

theorem noBits_of_literal {value : Value} {type : Option LogicalType} {x : Expr}
    (h : literal value type = .ok x) : x.NoBits types := by
  have hnatural : ∀ y, naturalLiteral value = .ok y → y.NoBits types := by
    intro y hy
    cases value with
    | float f =>
      simp only [naturalLiteral] at hy
      split at hy
      · cases hy
        exact Expr.noBits_literal _
      · cases hy
    | timestamp t => exact noBits_of_castTo hy (Expr.noBits_literal _)
    | _ =>
      cases hy
      exact Expr.noBits_literal _
  obtain ⟨hx, -⟩ | ⟨t, y, -, hy, hcast⟩ := literal_cases h
  · exact hnatural x hx
  · exact noBits_of_castTo hcast (hnatural y hy)

/-- Putting an expression into a role adds constants only. -/
theorem noBits_inRole (role : Role) (isPredicate : Bool) {x : Expr} (hx : x.NoBits types) :
    (inRole role isPredicate x).NoBits types := by
  unfold inRole
  split
  · simp [hx]
  · simp [hx]
  · exact hx

/-- No aggregate function of a lowered expression is given a bit. -/
theorem noBits_of_lower {tables : List TableName} (haliases : aliases.tables <+: tables)
    {e : Scalar} (hdecided : e.OperandsDecided) (hdeclared : e.DeclaresBits types tables)
    {role : Role} {x : Expr} (h : (lower aliases role e).result = .ok x) : x.NoBits types := by
  induction e using Scalar.induct generalizing role x with
  | literal value type =>
    rw [lower, Lowering.result_ofExcept] at h
    unfold literalInRole at h
    split at h
    · cases h
      simp [truth]
    · obtain ⟨_, -, h⟩ := exceptBind_eq_ok.1 h
      obtain ⟨y, hy, h⟩ := exceptBind_eq_ok.1 h
      cases h
      exact noBits_inRole _ _ (noBits_of_literal hy)
  | column table name type =>
    rw [lower] at h
    simp only [Lowering.result_bind_eq_ok, Lowering.result_ofExcept, Lowering.result_pure] at h
    obtain ⟨_, -, y, hy, h⟩ := h
    cases h
    obtain ⟨-, hresolves⟩ := resolves_of_column hy
    cases hresolves
    exact noBits_inRole _ _ (Expr.noBits_column _ _)
  | param name type =>
    rw [lower] at h
    simp only [Lowering.result_bind_eq_ok, Lowering.result_pure] at h
    obtain ⟨_, -, _, -, h⟩ := h
    cases h
    exact noBits_inRole _ _ (Expr.noBits_param _)
  | op kind args type filter ihargs ihfilter =>
    obtain ⟨hreduction, hargs, hfilters⟩ := Scalar.operandsDecided_op.1 hdecided
    obtain ⟨-, handler, operands, condition, y, hhandler, -, ho, hc, hy, rfl⟩ :=
      result_lower_op.1 h
    obtain ⟨hget, hsupported⟩ := get?_of_handlerFor hhandler
    obtain ⟨-, hreads, -⟩ := arranged_server kind handler hget hsupported
    have hdeclares : ∀ a ∈ args, a.DeclaresBits types tables := fun a ha =>
      hdeclared.of_subset (Scalar.references_subset_of_mem ha)
    refine noBits_inRole _ _ (noBits_of_assemble (mindsBits_of_handlerFor hhandler) ?_ ?_ ?_ hy)
    · intro o hmem
      obtain ⟨i, hi⟩ := List.mem_iff_getElem?.1 hmem
      obtain ⟨a, ha, hlower⟩ := getElem?_of_lowerOperands ho hi
      have hmem := List.mem_of_getElem? ha
      exact ihargs a hmem (hargs a hmem) (hdeclares a hmem) hlower
    · intro c hcondition
      cases filter with
      | none =>
        rw [lowerFilter, Lowering.result_pure] at hc
        cases hc
        cases hcondition
      | some f =>
        rw [lowerFilter] at hc
        split at hc
        · next hreadsFilter =>
          simp only [Lowering.result_bind_eq_ok, Lowering.result_pure] at hc
          obtain ⟨c', hc', hc⟩ := hc
          cases hc
          cases hcondition
          rw [hreads] at hreadsFilter
          exact ihfilter f rfl (hfilters f rfl)
            (hdeclared.of_subset (Scalar.references_subset_of_filter hreadsFilter)) hc'
        · cases hc
          cases hcondition
    · rintro name boolCast arg o rfl rfl rfl hbit
      obtain ⟨a, ha, hlower⟩ := getElem?_of_lowerOperands ho (i := 0) rfl
      cases ha
      have hdecides := hreduction (hreads.symm.trans rfl) arg (by simp)
      exact boolean_of_isBit haliases hdecides (hdeclares arg (by simp)) hlower hbit

end Lower

/-! ## Compiled statements -/

/-- The types of columns and parameters are the native types of what the query declares them as. -/
def Query.Declares (query : Query) (tables : List TableRef) (types : Expr → Option NativeType) :
    Prop :=
  ∀ e ∈ query.references, ∀ x, StandsFor tables e x → ∀ type ∈ types x,
    e.outputType.bind LogicalType.native? = some type

/-- Only a column stands for a column. -/
theorem StandsFor.exists_eq_column {tables : List TableRef} {table : TableName} {name : String}
    {type : Option LogicalType} {x : Expr} (h : StandsFor tables (.column table name type) x) :
    ∃ asName, x = .column asName name := by
  cases h
  exact ⟨_, rfl⟩

/-- With the aliases that a statement gives to its tables, its query declares the bits in each of
the expressions that are lowered for it. -/
theorem Query.Declares.declaresBits {query : Query} {aliases : Aliases}
    {types : Expr → Option NativeType} (h : query.Declares aliases.refs types) {e : Scalar}
    (he : e ∈ query.written) : (RuleSet.base.normalize e).DeclaresBits types aliases.tables := by
  intro r hr x hx hbit
  rw [Scalar.references_normalize] at hr
  have hreference : r ∈ query.references := List.mem_flatMap.2 ⟨e, he, hr⟩
  have hnative := h r hreference x hx.standsFor .bit hbit
  obtain ⟨type, htype, hnative⟩ := Option.bind_eq_some_iff.1 hnative
  rw [htype, LogicalType.eq_boolean_of_native? hnative]

/-- In a compiled statement no aggregate function is given a bit, with or without a filter and at
any depth, if the types of the operands of reductions are decided by branches that have types: with
the types that columns and parameters are declared as, no argument of such a function is a bit. -/
theorem no_bits_in_aggregates (query : Query) (params : Params) (c : Compiled)
    (types : Expr → Option NativeType) (h : compile query params = .ok c)
    (htypes : query.Declares c.select.tables types)
    (hdecided : ∀ e ∈ query.written, e.OperandsDecided) :
    ∀ name args distinct, .call name args distinct ∈ c.select.subterms →
      name ∈ Semantics.aggregates → ∀ a ∈ args, a.isBit types = false := by
  have hcomposed := composed_of_compile h
  obtain ⟨aliases, htables, hrefs⟩ := hcomposed.tables
  rw [hrefs] at htypes
  -- the statement is made of normal forms, which refer to the same columns and parameters
  have hbits : ∀ x ∈ c.select.exprs, x.NoBits types := by
    refine hcomposed.forall_mem_exprs Expr.noBits_star (fun x => Expr.noBits_paren.2)
      (fun x y hx hy => Expr.noBits_binary.2 ⟨hx, hy⟩) ?_
    rintro e' he' tables role x hprefix ⟨visible, rfl, hlower⟩
    rw [Query.written_normalize] at he'
    obtain ⟨e, he, rfl⟩ := List.mem_map.1 he'
    have hdeclared := htypes.declaresBits he
    rw [← htables] at hprefix
    rw [RuleSet.normalize_eq_normalForm] at hlower hdeclared
    exact Lower.noBits_of_lower hprefix (hdecided e he).normalForm hdeclared hlower
  intro name args distinct hcall hname a ha
  obtain ⟨x, hx, hcall⟩ := List.mem_flatMap.1 hcall
  have htakes := hbits x hx _ hcall
  simp only [Expr.takesNoBit, hname, not_true, decide_false, Bool.false_or,
    List.all_eq_true] at htakes
  simpa using htakes a ha

/-- A filtered sum whose operand can be null in its second branch, and a maximum in a condition. -/
theorem no_bits_in_aggregates_of_branches :
    let key : Scalar := .column ⟨none, "t"⟩ "k" (some .int64)
    let flag : Scalar := .column ⟨none, "t"⟩ "b" (some .boolean)
    let perhaps : Scalar := .apply .choose [.apply .isNull [key], flag, .literal .null none]
    let total : Scalar := .op .sum [.apply .ifNull [perhaps, flag]] none (some flag)
    let query : Query := .relation (.aggregation
      (.table ⟨⟨none, "t"⟩, [("k", .int64), ("b", .boolean)]⟩)
      { metrics := [⟨"s", total⟩], having := [.apply .isNull [.apply .max [perhaps]]] })
    let types : Expr → Option NativeType
      | .column _ "b" => some .bit
      | .column _ "k" => some .bigInt
      | _ => none
    ∃ c, compile query .empty = .ok c ∧
      (∃ a b, c.select.exprs = [.function "sum" [a], .isNull (.function "max" [b]) false]) ∧
      query.Declares c.select.tables types ∧ (∀ e ∈ query.written, e.OperandsDecided) ∧
      ∀ name args distinct, .call name args distinct ∈ c.select.subterms →
        name ∈ Semantics.aggregates → ∀ a ∈ args, a.isBit types = false := by
  intro key flag perhaps total query types
  obtain ⟨c, hc, hexprs⟩ : ∃ c, compile query .empty = .ok c ∧
      ∃ a b, c.select.exprs = [.function "sum" [a], .isNull (.function "max" [b]) false] :=
    ⟨_, rfl, _, _, rfl⟩
  have htypes : query.Declares c.select.tables types := by
    intro e he x hx type htype
    have hall : query.references = [flag, key, flag, flag, key, flag] := rfl
    rw [hall] at he
    obtain rfl | rfl : e = key ∨ e = flag := by
      simp only [List.mem_cons, List.not_mem_nil] at he
      tauto
    · obtain ⟨asName, rfl⟩ := hx.exists_eq_column
      cases htype
      rfl
    · obtain ⟨asName, rfl⟩ := hx.exists_eq_column
      cases htype
      rfl
  have hdecided : ∀ e ∈ query.written, e.OperandsDecided := by
    simp [query, total, perhaps, flag, key, Query.written, Relation.written,
      Relation.joinPredicates, Scalar.apply, Scalar.operandsDecided_op, Operation.isReduction,
      Scalar.typeDecided, Scalar.branchDecided, Scalar.isBareNull]
  exact ⟨c, hc, hexprs, htypes, hdecided,
    no_bits_in_aggregates query .empty c types hc htypes hdecided⟩

/-- The sum of a truth value that comes after the bare null is the sum of a bit. -/
theorem bit_in_sum_of_null_first :
    let flag : Scalar := .column ⟨none, "t"⟩ "b" (some .boolean)
    let query : Query := .scalar (.apply .sum [.apply .coalesce [.literal .null none, flag]]) none
    let types : Expr → Option NativeType
      | .column _ "b" => some .bit
      | _ => none
    ∃ c a, compile query .empty = .ok c ∧ query.Declares c.select.tables types ∧
      .function "sum" [a] ∈ c.select.subterms ∧ a.isBit types = true := by
  intro flag query types
  obtain ⟨c, hc, hexprs⟩ : ∃ c, compile query .empty = .ok c ∧ c.select.exprs =
      [.function "sum" [.function "coalesce" [.null, .column (some "t0") "b"]]] := ⟨_, rfl, rfl⟩
  refine ⟨c, .function "coalesce" [.null, .column (some "t0") "b"], hc, ?_, ?_, rfl⟩
  · intro e he x hx type htype
    obtain rfl : e = flag := List.mem_singleton.1 he
    obtain ⟨asName, rfl⟩ := hx.exists_eq_column
    cases htype
    rfl
  · simp [Select.subterms, hexprs, Expr.function, Expr.subterms]

end TransactSql
