import TransactSql.Proofs.Clauses

/-!
# Values and conditions are kept apart

The server has no values of boolean type, so an expression of a statement is either a value or a
condition, and each place of a statement takes one of the two. `HasRole` gives the grammar of
both. Lowering for a role yields an expression of that role, and so every clause of a compiled
statement holds what the server expects there.
-/

namespace TransactSql

open Sql (Expr Literal BinaryOp)

/-- The grammar of values and conditions. A keyword can stand in a value only as the first
argument of `datepart`. -/
inductive HasRole : Role → Expr → Prop
  | column (table : Option String) (name : String) : HasRole .value (.column table name)
  | literal (l : Literal) : HasRole .value (.literal l)
  | param (name : String) : HasRole .value (.param name)
  | cast {x : Expr} (hx : HasRole .value x) (type : String) : HasRole .value (.cast x type)
  | call (function : String) {args : List Expr} (hargs : ∀ x ∈ args, HasRole .value x)
      (distinct : Bool) : HasRole .value (.call function args distinct)
  | datePart (keyword : String) {args : List Expr} (hargs : ∀ x ∈ args, HasRole .value x)
      (distinct : Bool) : HasRole .value (.call "datepart" (.raw keyword :: args) distinct)
  | case {branches : List (Expr × Expr)} {otherwise : Option Expr}
      (hwhen : ∀ b ∈ branches, HasRole .condition b.1)
      (hthen : ∀ b ∈ branches, HasRole .value b.2)
      (helse : ∀ x ∈ otherwise, HasRole .value x) : HasRole .value (.case none branches otherwise)
  | arithmetic {op : BinaryOp} {x y : Expr} (h : op ∈ [.plus, .minus, .times, .divide, .concat])
      (hx : HasRole .value x) (hy : HasRole .value y) : HasRole .value (.binary x op y)
  | minus {x : Expr} (hx : HasRole .value x) : HasRole .value (.unary .minus x)
  | comparison {op : BinaryOp} {x y : Expr} (h : op ∈ [.eq, .ne, .lt, .gt, .le, .ge])
      (hx : HasRole .value x) (hy : HasRole .value y) : HasRole .condition (.binary x op y)
  | connective {op : BinaryOp} {x y : Expr} (h : op ∈ [.and, .or])
      (hx : HasRole .condition x) (hy : HasRole .condition y) :
      HasRole .condition (.binary x op y)
  | not {x : Expr} (hx : HasRole .condition x) : HasRole .condition (.unary .not x)
  | isIn {x : Expr} {values : List Expr} (hx : HasRole .value x)
      (hvalues : ∀ v ∈ values, HasRole .value v) (negated : Bool) :
      HasRole .condition (.isIn x values negated)
  | isNull {x : Expr} (hx : HasRole .value x) (negated : Bool) :
      HasRole .condition (.isNull x negated)
  | paren {role : Role} {x : Expr} (hx : HasRole role x) : HasRole role (.paren x)

namespace HasRole

/-! ## Parentheses keep the role -/

theorem nested {role : Role} {x : Expr} (hx : HasRole role x) : HasRole role x.nested := by
  unfold Expr.nested
  split
  · exact .paren hx
  · exact .paren hx
  · exact hx

theorem conjunct {role : Role} {x : Expr} (hx : HasRole role x) : HasRole role x.conjunct := by
  unfold Expr.conjunct
  split
  · exact .paren hx
  · exact hx

theorem minusOperand {role : Role} {x : Expr} (hx : HasRole role x) :
    HasRole role (Lower.minusOperand x) := by
  unfold Lower.minusOperand
  split
  · exact hx
  · exact hx
  · exact hx
  · exact .paren hx

/-- A `CASE` with one branch. -/
theorem caseWhen {c x y : Expr} (hc : HasRole .condition c) (hx : HasRole .value x)
    (hy : HasRole .value y) : HasRole .value (.caseWhen c x y) := by
  refine .case ?_ ?_ ?_
  · simpa using hc
  · simpa using hx
  · simpa using hy

end HasRole

/-- The shapes that lowering gives follow the grammar. -/
theorem Lowered.hasRole {role : Role} {x : Expr} (h : Lowered role x) : HasRole role x := by
  induction h with
  | column tableAlias name => exact .column _ _
  | literal _ => exact .literal _
  | param _ => exact .param _
  | cast _ type ih => exact .cast ih _
  | function _ _ ih => exact .call _ ih false
  | datePart part _ ih =>
    refine .datePart _ ?_ false
    simpa using ih
  | caseWhen _ _ _ ihc ihx ihy => exact .caseWhen ihc ihx ihy
  | @arithmetic op _ _ hop _ _ ihx ihy =>
    refine .arithmetic ?_ ihx.nested ihy.nested
    cases op <;> simp_all [BinaryOp.isArithmetic]
  | minus _ ih => exact .minus ih.minusOperand
  | @comparison op _ _ hop _ _ ihx ihy =>
    refine .comparison ?_ ihx.nested ihy.nested
    cases op <;> simp_all [BinaryOp.isComparison]
  | @connective op _ _ hop _ _ ihx ihy =>
    refine .connective ?_ ihx.nested ihy.nested
    cases op <;> simp_all [BinaryOp.isConnective]
  | negation _ ih => exact .not (.paren ih)
  | membership negated _ _ ihx ihvalues => exact .isIn ihx.nested ihvalues negated
  | nullTest _ ih => exact .isNull ih.nested false

/-- The grammar is a property of clauses: conjunctions of conditions are conditions. -/
theorem clauseProperty_hasRole : ClauseProperty HasRole where
  lowered h := h.hasRole
  conjoined hx hy := .connective (by simp) hx.conjunct hy.conjunct
  nested hx hy := .connective (by simp) hx.nested hy.nested

/-- Lowering gives a value where a value is needed and a condition where a condition is needed, in
whatever scope. In a compiled statement all items other than `alias.*`, all keys and all
sort keys are values, and the conditions of joins, rows and groups are conditions. -/
theorem values_and_conditions_apart :
    (∀ (s : Scope) (e : Scalar) (x : Expr),
      (s.lower .value e).1 = .ok x → HasRole .value x) ∧
    (∀ (s : Scope) (e : Scalar) (x : Expr),
      (s.lower .condition e).1 = .ok x → HasRole .condition x) ∧
    (∀ (query : Query) (params : Params) (c : Compiled),
      compile query params = .ok c → c.select.Clauses HasRole) := by
  refine ⟨?_, ?_, ?_⟩
  · intro s e x h
    exact (s.lowered_of_lower h).hasRole
  · intro s e x h
    exact (s.lowered_of_lower h).hasRole
  · intro query params c h
    exact clauses_of_compile clauseProperty_hasRole h

/-- A predicate, `@b IS NULL OR @b`, as a value, as a condition, and as both in one query. -/
theorem values_and_conditions_apart_of_predicate :
    let b : Scalar := .param "b" .boolean
    let p : Scalar := .apply .or [.apply .isNull [b], b]
    let r : Relation := .selection (.table ⟨⟨none, "t"⟩, []⟩)
      { projections := [⟨"p", p⟩], predicates := [p, p] }
    let s := Scope.new .empty
    (∃ x, (s.lower .value p).1 = .ok x ∧ HasRole .value x) ∧
    (∃ x, (s.lower .condition p).1 = .ok x ∧ HasRole .condition x) ∧
    ∃ c, compile (.relation r) .empty = .ok c ∧ c.select.Clauses HasRole := by
  intro b p r s
  obtain ⟨hvalue, hcondition, hclauses⟩ := values_and_conditions_apart
  have hx : ∃ x, (s.lower .value p).1 = .ok x := ⟨_, rfl⟩
  have hy : ∃ x, (s.lower .condition p).1 = .ok x := ⟨_, rfl⟩
  have hc : ∃ c, compile (.relation r) .empty = .ok c := ⟨_, rfl⟩
  obtain ⟨x, hx⟩ := hx
  obtain ⟨y, hy⟩ := hy
  obtain ⟨c, hc⟩ := hc
  exact ⟨⟨x, hx, hvalue _ _ _ hx⟩, ⟨y, hy, hcondition _ _ _ hy⟩, c, hc, hclauses _ _ _ hc⟩

end TransactSql
