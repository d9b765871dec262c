import Mathlib
import TransactSql.Proofs.Acceptance
import TransactSql.Proofs.Truth

/-!
# Values of expressions on rows

An expression of a statement has a value on every row, and a condition is true, false or unknown
there. What columns, operators and functions yield is left open: all of that is a `Semantics`, whose
values may be null. Fixed is what the shape of an expression decides: `CASE` takes the first branch
whose condition is true, connectives are three-valued, and an aggregate function is given the values
of its argument on all rows, without the nulls.

A reduction with a filter has a `CASE` around its operand that is null wherever the filter is not
true. `filter_restricts_rows` says that this is the same as leaving those rows out.
-/

namespace TransactSql

open Sql (Expr Literal BinaryOp)

/-- What the parts of expressions yield, for rows and values of any kind, where `none` is null. -/
structure Semantics (Row V : Type) where
  column : Option String → String → Row → Option V
  literal : Literal → Option V
  param : String → Option V
  /-- Operators that compute a value. -/
  operator : BinaryOp → Option V → Option V → Option V
  /-- Operators that compare two values. -/
  compare : BinaryOp → Option V → Option V → Truth
  negative : Option V → Option V
  function : String → List (Option V) → Option V
  cast : String → Option V → Option V
  /-- Keywords that stand where a value does. -/
  keyword : String → Option V
  /-- Aggregate functions, of the values that are not null. -/
  aggregate : String → List V → Option V

namespace Semantics

variable {Row V : Type} (M : Semantics Row V) (row : Row)

mutual

/-- The value of an expression on a row. What is no value is null. -/
def value : Expr → Option V
  | .column table name => M.column table name row
  | .literal .null => none
  | .literal l => M.literal l
  | .param name => M.param name
  | .binary x op y => M.operator op (value x) (value y)
  | .unary .minus x => M.negative (value x)
  | .unary .not _ => none
  | .call function args _ => M.function function (values args)
  | .case none branches otherwise => searched branches (valueOption otherwise)
  | .case (some operand) branches otherwise =>
    matched (value operand) branches (valueOption otherwise)
  | .cast x type => M.cast type (value x)
  | .isIn .. | .isNull .. | .star _ => none
  | .paren x => value x
  | .raw text => M.keyword text

/-- Whether a condition holds on a row. What is no condition is unknown. -/
def holds : Expr → Truth
  | .binary x .and y => (holds x).and (holds y)
  | .binary x .or y => (holds x).or (holds y)
  | .binary x op y => M.compare op (value x) (value y)
  | .unary .not x => (holds x).not
  | .isIn x options negated =>
    let found := among (value x) options
    if negated then found.not else found
  | .isNull x negated => if (value x).isNone = negated then .false else .true
  | .paren x => holds x
  | _ => .unknown

/-- The values of a list of expressions. -/
def values : List Expr → List (Option V)
  | [] => []
  | x :: rest => value x :: values rest

/-- The value of an expression that may be absent. -/
def valueOption : Option Expr → Option V
  | none => none
  | some x => value x

/-- The value of the first branch whose condition is true. -/
def searched : List (Expr × Expr) → Option V → Option V
  | [], otherwise => otherwise
  | (condition, x) :: rest, otherwise =>
    if holds condition = .true then value x else searched rest otherwise

/-- The value of the first branch that a value is equal to. -/
def matched (operand : Option V) : List (Expr × Expr) → Option V → Option V
  | [], otherwise => otherwise
  | (option, x) :: rest, otherwise =>
    if M.compare .eq operand (value option) = .true then value x
    else matched operand rest otherwise

/-- Whether a value is equal to one of a list. -/
def among (operand : Option V) : List Expr → Truth
  | [] => .false
  | x :: rest => (M.compare .eq operand (value x)).or (among operand rest)

end

variable {M row}

@[simp]
theorem value_null : M.value row .null = none := rfl

/-- `CASE WHEN c THEN x ELSE y END` has the value of `x` only where `c` is true. -/
@[simp]
theorem value_caseWhen (c x y : Expr) :
    M.value row (.caseWhen c x y) =
      if M.holds row c = .true then M.value row x else M.value row y := by
  rfl

/-! ## Reductions -/

/-- The functions that reduce the values on many rows to one. -/
def aggregates : List String :=
  ["count", "sum", "min", "max", "avg"]

variable (M)

/-- The value of an aggregate function over rows: what it makes of the values of its argument that
are not null. Any other expression has no value over rows. -/
def reduction? (rows : List Row) : Expr → Option (Option V)
  | .call name [x] false =>
    if name ∈ aggregates then some (M.aggregate name (rows.filterMap fun row => M.value row x))
    else none
  | _ => none

theorem reduction?_function {name : String} (h : name ∈ aggregates) (rows : List Row) (x : Expr) :
    M.reduction? rows (.function name [x]) =
      some (M.aggregate name (rows.filterMap fun row => M.value row x)) :=
  if_pos h

/-- Where a condition is not true, a `CASE` that is null otherwise gives the function nothing. -/
theorem filterMap_caseWhen_null (rows : List Row) (c x : Expr) :
    rows.filterMap (fun row => M.value row (.caseWhen c x .null)) =
      (rows.filter fun row => M.holds row c = .true).filterMap fun row => M.value row x := by
  rw [List.filterMap_filter]
  congr
  funext row
  simp

end Semantics

/-! ## Lowered reductions -/

/-- The server's handler of a reduction that can have a filter calls an aggregate function. -/
theorem reduction_server {kind : Operation} (h : kind ∈ Operation.filtered) :
    kind.isPredicate = false ∧ ∃ name type,
      Registry.server.get? kind = some (.reduction name (some type)) ∧
        name ∈ Semantics.aggregates := by
  simp only [Operation.filtered, List.mem_cons, List.not_mem_nil, or_false] at h
  rcases h with rfl | rfl | rfl | rfl | rfl
  · exact ⟨rfl, _, _, rfl, by decide⟩
  · exact ⟨rfl, _, _, rfl, by decide⟩
  · exact ⟨rfl, _, _, rfl, by decide⟩
  · exact ⟨rfl, _, _, rfl, by decide⟩
  · exact ⟨rfl, _, _, rfl, by decide⟩

namespace Lower

variable {aliases : Aliases} {kind : Operation} {name : String} {boolCast : Option LogicalType}
  {args : List Scalar} {type : Option LogicalType} {filter : Option Scalar} {x : Expr}

/-- A reduction calls its function on the lowered operand, which is cast first if it is a truth
value, and which stands in a `CASE` if there is a filter. -/
theorem result_lower_reduction (hpredicate : kind.isPredicate = false)
    (hget : Registry.server.get? kind = some (.reduction name boolCast)) :
    (lower aliases .value (.op kind args type filter)).result = .ok x ↔
      ∃ arg lowered operand condition, args = [arg] ∧
        (lower aliases .value arg).result = .ok lowered ∧
        (if arg.outputType = some .boolean then boolCast.elim (.ok lowered) (castTo lowered)
          else .ok lowered) = .ok operand ∧
        (lowerFilter aliases (.reduction name boolCast) filter).result = .ok condition ∧
        x = .function name [condition.elim operand fun c => .caseWhen c operand .null] := by
  rw [result_lower_op, hpredicate]
  constructor
  · rintro ⟨-, handler, operands, condition, e, hhandler, -, ho, hc, he, rfl⟩
    have hfound : some (.reduction name boolCast) = some handler :=
      hget.symm.trans (get?_of_handlerFor hhandler).1
    cases hfound
    simp only [assemble] at he
    split at he
    · next arg y =>
      obtain ⟨z, hz, he⟩ := exceptBind_eq_ok.1 he
      cases he
      obtain ⟨operand, hoperand, rfl⟩ := reduced_eq_ok.1 hz
      have hlowered : (lower aliases .value arg).result = .ok y := by
        simp only [lowerOperands, Lowering.result_bind_eq_ok, Lowering.result_pure,
          Except.ok.injEq] at ho
        obtain ⟨y', hy', _, rfl, hcons⟩ := ho
        cases hcons
        exact hy'
      exact ⟨arg, y, operand, condition, rfl, hlowered, hoperand, hc, rfl⟩
    · cases he
  · rintro ⟨arg, lowered, operand, condition, rfl, hlowered, hoperand, hc, rfl⟩
    have hhandler : Registry.server.handlerFor ⟨kind, [arg], type, filter⟩ =
        .ok (.reduction name boolCast) := handlerFor_eq_ok.2 ⟨hget, by simp⟩
    have hoperands : (lowerOperands aliases (.reduction name boolCast) 0 [arg]).result =
        .ok [lowered] := by
      simp only [lowerOperands, Lowering.result_bind_eq_ok, Lowering.result_pure]
      exact ⟨lowered, hlowered, [], rfl, rfl⟩
    have hreduced : reduced boolCast arg lowered condition =
        .ok (condition.elim operand fun c => .caseWhen c operand .null) :=
      reduced_eq_ok.2 ⟨operand, hoperand, rfl⟩
    refine ⟨fun _ => rfl, _, [lowered], condition, _, hhandler, rfl, hoperands, hc, ?_, rfl⟩
    exact exceptBind_eq_ok.2 ⟨_, hreduced, rfl⟩

end Lower

/-- A reduction with a filter, over any rows, has the value that the reduction without the filter
has over the rows on which the filter is true. -/
theorem filter_restricts_rows {Row V : Type} (M : Semantics Row V) (rows : List Row)
    (s : Scope) (kind : Operation) (args : List Scalar) (type : Option LogicalType)
    (f : Scalar) (x : Expr) (hkind : kind ∈ Operation.filtered)
    (h : (s.lower .value (.op kind args type (some f))).1 = .ok x) :
    ∃ c y v, (s.lower .condition f).1 = .ok c ∧
      (s.lower .value (.op kind args type none)).1 = .ok y ∧
      M.reduction? rows x = some v ∧
      M.reduction? (rows.filter fun row => M.holds row c = .true) y = some v := by
  simp only [Scope.lower_fst] at h ⊢
  obtain ⟨hpredicate, name, castType, hget, hname⟩ := reduction_server hkind
  obtain ⟨arg, lowered, operand, condition, rfl, hlowered, hoperand, hcondition, rfl⟩ :=
    (Lower.result_lower_reduction hpredicate hget).1 h
  simp only [Lower.lowerFilter, Lower.readsFilter, ↓reduceIte, Lowering.result_bind_eq_ok,
    Lowering.result_pure, Except.ok.injEq] at hcondition
  obtain ⟨c, hc, rfl⟩ := hcondition
  have hnone : (Lower.lowerFilter s.aliases (.reduction name (some castType)) none).result =
      .ok none := by simp [Lower.lowerFilter]
  -- without its filter the node is the same call, with the operand that the `CASE` has as a branch
  have hwithout : (Lower.lower s.aliases .value (.op kind [arg] type none)).result =
      .ok (.function name [operand]) :=
    (Lower.result_lower_reduction hpredicate hget).2
      ⟨arg, lowered, operand, none, rfl, hlowered, hoperand, hnone, rfl⟩
  refine ⟨c, _, _, hc, hwithout, M.reduction?_function hname rows _, ?_⟩
  rw [Option.elim_some, M.reduction?_function hname, M.filterMap_caseWhen_null]

/-- The number of truth values, over rows on which the filter is true, false and unknown, and the
operand is true, false and null. -/
theorem filter_restricts_rows_of_truth_values :
    let M : Semantics (Option Int × Option Int) Int := {
      column := fun _ name row => if name = "b" then row.1 else row.2
      literal := fun
        | .int n => some n.toInt
        | _ => none
      param := fun _ => none
      operator := fun _ _ _ => none
      compare := fun
        | .eq, some m, some n => if m = n then .true else .false
        | _, _, _ => .unknown
      negative := Option.map (- ·)
      function := fun _ _ => none
      cast := fun _ value => value
      keyword := fun _ => none
      aggregate := fun _ values => some values.length }
    let rows :=
      [(some 1, some 1), (some 0, some 1), (none, some 1), (some 1, some 0), (some 1, none)]
    let b : Scalar := .column ⟨none, "t"⟩ "b" (some .boolean)
    let f : Scalar := .column ⟨none, "t"⟩ "f" (some .boolean)
    let s : Scope := ⟨.empty, ⟨[⟨none, "t"⟩], by decide⟩, .empty⟩
    Operation.count ∈ Operation.filtered ∧
    ∃ x, (s.lower .value (.op .count [b] none (some f))).1 = .ok x ∧
      M.reduction? rows x = some (some 2) ∧
      ∃ c y v, (s.lower .condition f).1 = .ok c ∧
        (s.lower .value (.op .count [b] none none)).1 = .ok y ∧
        M.reduction? rows x = some v ∧
        M.reduction? (rows.filter fun row => M.holds row c = .true) y = some v := by
  intro M rows b f s
  have hx : ∃ x, (s.lower .value (.op .count [b] none (some f))).1 = .ok x ∧
      M.reduction? rows x = some (some 2) := ⟨_, rfl, rfl⟩
  obtain ⟨x, hx, hcount⟩ := hx
  exact ⟨by decide, x, hx, hcount,
    filter_restricts_rows M rows s .count [b] none f x (by decide) hx⟩

end TransactSql
