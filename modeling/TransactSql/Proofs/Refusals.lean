import TransactSql.Proofs.Lowering
import TransactSql.Proofs.Threading
import TransactSql.Proofs.Traverse

/-!
# What an expression is refused for

Some causes of failure are about a single expression, others about the statement that it is put
into: a table that comes twice, a scalar over several tables, a source that cannot be one. Lowering
an expression fails for causes of the first kind only (`failsAsExpression_lower`), so whoever sees
one of the others knows that the statement was refused and not an expression in it.
-/

namespace TransactSql

open Sql (Expr)

/-- Whether a failure is about a single expression. -/
def CompileError.isOfExpression : CompileError → Bool
  | unsupportedOperation .. | unsupportedType _ | invalidArity .. => true
  | unknownTable _ | unknownColumn .. => true
  | invalidExpression (.notFinite _) | invalidExpression (.notCondition _) => true
  | invalidExpression (.noTarget _) | invalidExpression (.paramName _) => true
  | invalidExpression _ | unboundParameter _ | unknownParameter _ => false

/-- A computation that fails for causes of expressions only. -/
def FailsAsExpression {α : Type} (x : Except CompileError α) : Prop :=
  ∀ cause, x = .error cause → cause.isOfExpression

variable {α β : Type}

theorem failsAsExpression_ok (a : α) : FailsAsExpression (.ok a) :=
  fun _ h => nomatch h

theorem failsAsExpression_error {cause : CompileError} :
    FailsAsExpression (.error cause : Except CompileError α) ↔ cause.isOfExpression := by
  simp [FailsAsExpression]

theorem FailsAsExpression.bind {x : Except CompileError α} {f : α → Except CompileError β}
    (hx : FailsAsExpression x) (hf : ∀ a, FailsAsExpression (f a)) :
    FailsAsExpression (x >>= f) := by
  cases x with
  | ok a => exact hf a
  | error cause => exact failsAsExpression_error.2 (failsAsExpression_error.1 hx)

theorem FailsAsExpression.andThen {x : Lowering α} {f : α → Lowering β}
    (hx : FailsAsExpression x.result) (hf : ∀ a, FailsAsExpression (f a).result) :
    FailsAsExpression (x >>= f).result := by
  obtain ⟨result, noted⟩ := x
  cases result with
  | ok a => exact hf a
  | error cause => exact failsAsExpression_error.2 (failsAsExpression_error.1 hx)

namespace Lower

/-! ## Leaves -/

theorem failsAsExpression_castTo (e : Expr) (type : LogicalType) :
    FailsAsExpression (castTo e type) := by
  unfold castTo LogicalType.castName
  refine .bind ?_ fun _ => failsAsExpression_ok _
  cases type.native? with
  | none => exact failsAsExpression_error.2 rfl
  | some native => exact failsAsExpression_ok _

theorem failsAsExpression_literal (value : Value) (type : Option LogicalType) :
    FailsAsExpression (literal value type) := by
  have hnatural : FailsAsExpression (naturalLiteral value) := by
    cases value with
    | float x =>
      show FailsAsExpression (if x.isFinite then _ else _)
      split
      · exact failsAsExpression_ok _
      · exact failsAsExpression_error.2 rfl
    | timestamp t => exact failsAsExpression_castTo _ _
    | _ => exact failsAsExpression_ok _
  refine hnatural.bind fun e => ?_
  cases type with
  | none => exact failsAsExpression_ok _
  | some t =>
    dsimp only
    split
    · exact failsAsExpression_ok _
    · exact failsAsExpression_castTo e t

theorem failsAsExpression_column (aliases : Aliases) (table : TableName) (name : String)
    (type : Option LogicalType) : FailsAsExpression (column aliases table name type) := by
  cases type with
  | none => exact failsAsExpression_error.2 rfl
  | some t =>
    refine .bind ?_ fun _ => failsAsExpression_ok _
    unfold Aliases.find
    split
    · exact failsAsExpression_ok _
    · exact failsAsExpression_error.2 rfl

theorem failsAsExpression_checkRole (role : Role) (e : Scalar) :
    FailsAsExpression (checkRole role e) := by
  cases role with
  | value => exact failsAsExpression_ok _
  | condition =>
    unfold checkRole
    split
    · exact failsAsExpression_ok _
    · split
      · exact failsAsExpression_ok _
      · exact failsAsExpression_error.2 rfl

theorem failsAsExpression_literalInRole (role : Role) (value : Value)
    (type : Option LogicalType) : FailsAsExpression (literalInRole role value type) := by
  unfold literalInRole
  split
  · exact failsAsExpression_ok _
  · refine (failsAsExpression_checkRole role _).bind fun _ => ?_
    exact (failsAsExpression_literal value type).bind fun _ => failsAsExpression_ok _

theorem failsAsExpression_note (name : String) :
    FailsAsExpression (Lowering.note name).result := by
  unfold Lowering.note
  split
  · exact failsAsExpression_ok _
  · exact failsAsExpression_error.2 rfl

/-! ## Nodes -/

theorem failsAsExpression_handlerFor (r : Registry Handler) (node : Node) :
    FailsAsExpression (r.handlerFor node) := by
  unfold Registry.handlerFor Registry.lookup
  cases r.get? node.kind with
  | none => exact failsAsExpression_error.2 rfl
  | some handler =>
    cases handler with
    | unsupported => exact failsAsExpression_error.2 rfl
    | _ => exact failsAsExpression_ok _

theorem failsAsExpression_checkNode (node : Node) (handler : Handler) :
    FailsAsExpression (checkNode node handler) := by
  unfold checkNode
  split
  · exact failsAsExpression_error.2 rfl
  · split
    · exact failsAsExpression_error.2 rfl
    · exact failsAsExpression_ok _

theorem failsAsExpression_reduced (boolCast : Option LogicalType) (operand : Scalar) (e : Expr)
    (filter : Option Expr) : FailsAsExpression (reduced boolCast operand e filter) := by
  unfold reduced
  cases boolCast with
  | none => cases filter <;> exact failsAsExpression_ok _
  | some type =>
    dsimp only
    split
    · refine (failsAsExpression_castTo e type).bind fun value => ?_
      cases filter <;> exact failsAsExpression_ok _
    · cases filter <;> exact failsAsExpression_ok _

theorem failsAsExpression_assemble (node : Node) (handler : Handler) (operands : List Expr)
    (filter : Option Expr) : FailsAsExpression (assemble node handler operands filter) := by
  -- what is left over is the refusal of operands that the handler does not take
  have hmismatch : FailsAsExpression (assemble.mismatch node handler) :=
    failsAsExpression_error.2 rfl
  cases handler with
  | unary | fixed | variadic => exact failsAsExpression_ok _
  | unsupported => exact failsAsExpression_error.2 rfl
  | binary op =>
    simp only [assemble]
    split
    · exact failsAsExpression_ok _
    · exact hmismatch
  | reduction function boolCast =>
    simp only [assemble]
    split
    · exact (failsAsExpression_reduced _ _ _ _).bind fun _ => failsAsExpression_ok _
    · exact hmismatch
  | special form =>
    cases form with
    | membership | connective | negation | nullTest | minus | choice | find | substring
      | floorDivide =>
      simp only [assemble]
      split
      · exact failsAsExpression_ok _
      · exact hmismatch
    | cast | datePart =>
      simp only [assemble]
      split
      · exact failsAsExpression_castTo _ _
      · exact hmismatch

/-! ## Expressions -/

/-- Lowering an expression fails for causes of expressions only. -/
theorem failsAsExpression_lower (aliases : Aliases) (role : Role) (e : Scalar) :
    FailsAsExpression (lower aliases role e).result := by
  induction e using Scalar.induct generalizing role with
  | literal value type =>
    rw [lower]
    exact failsAsExpression_literalInRole role value type
  | column table name type =>
    rw [lower]
    refine .andThen (failsAsExpression_checkRole role _) fun _ => ?_
    exact .andThen (failsAsExpression_column aliases table name type) fun _ =>
      failsAsExpression_ok _
  | param name type =>
    rw [lower]
    refine .andThen (failsAsExpression_checkRole role _) fun _ => ?_
    exact .andThen (failsAsExpression_note name) fun _ => failsAsExpression_ok _
  | op kind args type filter ihargs ihfilter =>
    have hargs : ∀ handler position,
        FailsAsExpression (lowerOperands aliases handler position args).result := by
      intro handler position
      induction args generalizing position with
      | nil => exact failsAsExpression_ok _
      | cons arg rest ih =>
        obtain ⟨harg, hrest⟩ := List.forall_mem_cons.1 ihargs
        rw [lowerOperands]
        refine .andThen (harg _) fun _ => ?_
        exact .andThen (ih hrest (position + 1)) fun _ => failsAsExpression_ok _
    have hfilter : ∀ handler, FailsAsExpression (lowerFilter aliases handler filter).result := by
      intro handler
      cases filter with
      | none => exact failsAsExpression_ok _
      | some f =>
        rw [lowerFilter]
        split
        · exact .andThen (ihfilter f rfl .condition) fun _ => failsAsExpression_ok _
        · exact failsAsExpression_ok _
    have hnode : ∀ handler, FailsAsExpression
        (do
          Lowering.ofExcept (checkNode ⟨kind, args, type, filter⟩ handler)
          let operands ← lowerOperands aliases handler 0 args
          let condition ← lowerFilter aliases handler filter
          let e ← Lowering.ofExcept
            (assemble ⟨kind, args, type, filter⟩ handler operands condition)
          return inRole role kind.isPredicate e : Lowering Expr).result := by
      intro handler
      refine .andThen (failsAsExpression_checkNode _ handler) fun _ => ?_
      refine .andThen (hargs handler 0) fun operands => ?_
      refine .andThen (hfilter handler) fun condition => ?_
      exact .andThen (failsAsExpression_assemble _ handler operands condition) fun _ =>
        failsAsExpression_ok _
    have hhandler := failsAsExpression_handlerFor Registry.server ⟨kind, args, type, filter⟩
    rw [lower]
    dsimp only
    split
    · refine .andThen (failsAsExpression_checkRole role _) fun _ => ?_
      exact .andThen hhandler hnode
    · exact .andThen hhandler hnode

end Lower

end TransactSql
