import Mathlib
import TransactSql.Proofs.Preparation
import TransactSql.Proofs.Threading
import TransactSql.Proofs.Traverse

/-!
# Which expressions can be lowered

`Expressible tables role e` says what an expression must be for a statement with these tables to
express it in a role. Exactly these expressions are lowered, and all others are refused
(`lowered_iff_expressible`).

Lowering fails in many places: at a leaf, in the registry, at the number of operands, at the type
of a cast, in an operand or in a filter. Each of these has a lemma that says when it succeeds, and
`accepts_value_op` puts them together for one node. What a handler asks of its operands is compared
with what its operation asks of them once, for the whole registry (`served_server`). Only values
need an induction, since `accepts_condition` reduces conditions to them.
-/

namespace TransactSql

open Sql (Expr)

/-! ## What can be expressed -/

namespace Operation

/-- The role in which an operation takes the operand at a position. -/
def operandRole : Operation → Nat → Role
  | .and, _ | .or, _ | .not, _ | .choose, 0 => .condition
  | _, _ => .value

/-- The server has the operation, and for so many operands. -/
def Takes (op : Operation) (count : Nat) : Prop :=
  Registry.server.supports op ∧ ∀ handler ∈ Registry.server.get? op, handler.arity.admits count

/-- The operations that are computed only of the rows that a filter lets through. -/
def filtered : List Operation :=
  [.count, .sum, .min, .max, .mean]

end Operation

/-- The expressions that apply a predicate. -/
def Scalar.isPredicate : Scalar → Bool
  | .op kind .. => kind.isPredicate
  | _ => false

/-- The expressions that a statement with these tables can express in a role. -/
inductive Expressible (tables : List TableName) : Role → Scalar → Prop
  | literal {value : Value} {type : Option LogicalType}
      (hfinite : ∀ x, value = .float x → x.isFinite)
      (htype : ∀ t ∈ type, value.naturalType ≠ some t → t.native?.isSome) :
      Expressible tables .value (.literal value type)
  | column {table : TableName} (htable : table ∈ tables) (name : String) (type : LogicalType) :
      Expressible tables .value (.column table name (some type))
  | param {name : String} (hname : IsIdentifier name) (type : LogicalType) :
      Expressible tables .value (.param name type)
  | op {kind : Operation} {args : List Scalar} {type : Option LogicalType}
      {filter : Option Scalar} (htakes : kind.Takes args.length)
      (hcast : kind = .cast → ∃ t ∈ type, t.native?.isSome)
      (hargs : ∀ i a, args[i]? = some a → Expressible tables (kind.operandRole i) a)
      (hfilter : kind ∈ Operation.filtered → ∀ f ∈ filter, Expressible tables .condition f) :
      Expressible tables .value (.op kind args type filter)
  -- a predicate is a condition whatever type it is given
  | predicate {e : Scalar} (hpredicate : e.isPredicate) (he : Expressible tables .value e) :
      Expressible tables .condition e
  | truth (b : Bool) : Expressible tables .condition (.literal (.bool b) none)
  | boolean {e : Scalar} (htype : e.outputType = some .boolean)
      (he : Expressible tables .value e) : Expressible tables .condition e

/-! ## Numbers of operands -/

namespace Arity

theorem le_of_admits {a : Arity} {count : Nat} (h : a.admits count) : a.least ≤ count := by
  unfold admits at h
  exact of_decide_eq_true (Bool.and_eq_true_iff.1 h).1

theorem eq_of_admits_exactly {n count : Nat} (h : (exactly n).admits count) : count = n := by
  have hbounds : decide (n ≤ count) && decide (count ≤ n) := h
  simp only [Bool.and_eq_true, decide_eq_true_eq] at hbounds
  omega

end Arity

/-! ## The registry -/

theorem Operation.takes_iff {op : Operation} {count : Nat} :
    op.Takes count ↔ ∃ handler, Registry.server.get? op = some handler ∧
      handler ≠ .unsupported ∧ handler.arity.admits count := by
  unfold Takes Registry.supports
  cases Registry.server.get? op with
  | none => simp
  | some handler => cases handler <;> simp [Handlers.refuses]

theorem handlerFor_eq_ok {r : Registry Handler} {node : Node} {handler : Handler} :
    r.handlerFor node = .ok handler ↔
      r.get? node.kind = some handler ∧ handler ≠ .unsupported := by
  refine ⟨get?_of_handlerFor, ?_⟩
  rintro ⟨hget, hsupported⟩
  unfold Registry.handlerFor Registry.lookup
  rw [hget]
  split
  · next hrefused =>
    cases hrefused
    exact absurd rfl hsupported
  · rfl

/-- The type to which a handler casts truth values. -/
def Handler.boolCast? : Handler → Option LogicalType
  | .reduction _ boolCast => boolCast
  | _ => none

/-- A handler asks of a node what the operation asks of it, and the type to which it casts truth
values is one of the server. -/
structure Handler.Serves (handler : Handler) (op : Operation) : Prop where
  role : ∀ i, Lower.operandRole handler i = op.operandRole i
  filter : Lower.readsFilter handler ↔ op ∈ Operation.filtered
  cast : handler = .special .cast ↔ op = .cast
  boolCast : ∀ type ∈ handler.boolCast?, type.native?.isSome

/-- After the first operand, all operands are taken in the same role. -/
theorem Lower.operandRole_succ (handler : Handler) (i : Nat) :
    operandRole handler (i + 1) = operandRole handler 1 := by
  cases handler with
  | special form => cases form <;> rfl
  | _ => rfl

theorem Operation.operandRole_succ (op : Operation) (i : Nat) :
    op.operandRole (i + 1) = op.operandRole 1 := by
  cases op <;> rfl

/-- The part of `Handler.Serves` that can be computed, for the whole registry. -/
theorem served_server (op : Operation) :
    ∀ handler ∈ Registry.server.get? op, handler ≠ .unsupported →
      Lower.operandRole handler 0 = op.operandRole 0 ∧
      Lower.operandRole handler 1 = op.operandRole 1 ∧
      (Lower.readsFilter handler ↔ op ∈ Operation.filtered) ∧
      (handler = .special .cast ↔ op = .cast) ∧
      ∀ type ∈ handler.boolCast?, type.native?.isSome := by
  cases op with
  | extract part => cases part <;> decide
  | _ => decide

theorem serves_of_get? {op : Operation} {handler : Handler}
    (hget : Registry.server.get? op = some handler) (hsupported : handler ≠ .unsupported) :
    handler.Serves op := by
  obtain ⟨hzero, hone, hfilter, hcast, hbool⟩ := served_server op handler hget hsupported
  refine ⟨?_, hfilter, hcast, hbool⟩
  intro i
  cases i with
  | zero => exact hzero
  | succ i => rw [Lower.operandRole_succ, Operation.operandRole_succ, hone]

/-! ## Leaves -/

namespace Lower

variable {aliases : Aliases} {role : Role} {value : Value} {type : Option LogicalType}
  {kind : Operation} {args : List Scalar} {filter : Option Scalar} {handler : Handler}

/-- Lowering gives an expression of SQL. -/
def Accepts (aliases : Aliases) (role : Role) (e : Scalar) : Prop :=
  ∃ x, (lower aliases role e).result = .ok x

theorem exists_castTo {e : Expr} {type : LogicalType} :
    (∃ x, castTo e type = .ok x) ↔ type.native?.isSome := by
  simp [castTo_eq_ok, Option.isSome_iff_exists]

theorem exists_naturalLiteral :
    (∃ x, naturalLiteral value = .ok x) ↔ ∀ x, value = .float x → x.isFinite := by
  cases value with
  | float x =>
    simp only [naturalLiteral]
    split
    · next hx => simp [hx]
    · next hx => simp [hx]
  | timestamp t => simp [naturalLiteral, exists_castTo, LogicalType.native?]
  | _ => simp [naturalLiteral]

theorem exists_literal :
    (∃ x, literal value type = .ok x) ↔
      (∀ x, value = .float x → x.isFinite) ∧
        ∀ t ∈ type, value.naturalType ≠ some t → t.native?.isSome := by
  rw [← exists_naturalLiteral]
  unfold literal
  simp only [exceptBind_eq_ok]
  cases type with
  | none => simp [pure, Except.pure]
  | some t =>
    by_cases hnatural : value.naturalType = some t
    · simp [hnatural, pure, Except.pure]
    · simp only [hnatural, ↓reduceIte]
      constructor
      · rintro ⟨x, e, he, hx⟩
        refine ⟨⟨e, he⟩, ?_⟩
        rintro _ ⟨rfl⟩ -
        exact exists_castTo.1 ⟨x, hx⟩
      · rintro ⟨⟨e, he⟩, hmapped⟩
        obtain ⟨x, hx⟩ := exists_castTo.2 (hmapped t rfl hnatural)
        exact ⟨x, e, he, hx⟩

theorem exists_column {table : TableName} {name : String} :
    (∃ x, column aliases table name type = .ok x) ↔ type.isSome ∧ table ∈ aliases.tables := by
  cases type with
  | none => simp [column]
  | some type =>
    simp only [column, exceptBind_eq_ok, Aliases.find_eq_ok, List.mem_iff_getElem?]
    simp [pure, Except.pure]

theorem checkRole_eq_ok {e : Scalar} {u : Unit} :
    checkRole role e = .ok u ↔ (role = .condition → e.outputType = some .boolean) := by
  cases role with
  | value => simp [checkRole]
  | condition => simp [checkRole]

/-! ## Roles -/

theorem accepts_column {table : TableName} {name : String} :
    Accepts aliases role (.column table name type) ↔
      (role = .condition → type = some .boolean) ∧ type.isSome ∧ table ∈ aliases.tables := by
  unfold Accepts
  rw [lower, Lowering.exists_result_bind fun _ _ => Lowering.exists_result_bind_pure]
  simp only [Lowering.result_ofExcept, checkRole_eq_ok, exists_const, exists_column,
    Scalar.outputType]

theorem accepts_param {name : String} {type : LogicalType} :
    Accepts aliases role (.param name type) ↔
      (role = .condition → type = .boolean) ∧ IsIdentifier name := by
  unfold Accepts
  rw [lower, Lowering.exists_result_bind fun _ _ => Lowering.exists_result_bind_pure]
  simp only [Lowering.result_ofExcept, Lowering.result_note_eq_ok, checkRole_eq_ok, exists_const,
    isParamName_iff, Scalar.outputType, Option.some.injEq]

theorem accepts_value_literal :
    Accepts aliases .value (.literal value type) ↔ ∃ x, literal value type = .ok x := by
  unfold Accepts
  rw [lower, Lowering.result_ofExcept]
  simp only [literalInRole, exceptBind_eq_ok, checkRole_eq_ok]
  constructor
  · rintro ⟨_, _, -, x, hx, -⟩
    exact ⟨x, hx⟩
  · rintro ⟨x, hx⟩
    exact ⟨_, (), nofun, x, hx, rfl⟩

/-- A literal is a condition as a truth value without a type, or as a value of boolean type. -/
theorem accepts_condition_literal :
    Accepts aliases .condition (.literal value type) ↔
      (∃ b, value = .bool b ∧ type = none) ∨
        (Scalar.literal value type).outputType = some .boolean ∧
          Accepts aliases .value (.literal value type) := by
  rw [accepts_value_literal]
  unfold Accepts
  rw [lower, Lowering.result_ofExcept]
  unfold literalInRole
  split
  · simp
  · next hother =>
    -- no truth value without a type, so that the check of the role is made
    rw [or_iff_right fun ⟨b, hvalue, htype⟩ => hother b rfl hvalue htype]
    simp only [exceptBind_eq_ok, checkRole_eq_ok]
    constructor
    · rintro ⟨_, _, htype, x, hx, -⟩
      exact ⟨htype trivial, x, hx⟩
    · rintro ⟨htype, x, hx⟩
      exact ⟨_, (), fun _ => htype, x, hx, rfl⟩

theorem accepts_condition_op :
    Accepts aliases .condition (.op kind args type filter) ↔
      (kind.isPredicate ∨ (Scalar.op kind args type filter).outputType = some .boolean) ∧
        Accepts aliases .value (.op kind args type filter) := by
  unfold Accepts
  simp only [result_lower_op, checkRole_eq_ok]
  constructor
  · rintro ⟨_, hrole, handler, operands, condition, e, hh, hn, ho, hc, he, -⟩
    refine ⟨?_, _, nofun, handler, operands, condition, e, hh, hn, ho, hc, he, rfl⟩
    cases hkind : kind.isPredicate with
    | true => exact .inl rfl
    | false => exact .inr (hrole hkind trivial)
  · rintro ⟨hrole, _, -, handler, operands, condition, e, hh, hn, ho, hc, he, -⟩
    refine ⟨_, ?_, handler, operands, condition, e, hh, hn, ho, hc, he, rfl⟩
    intro hkind _
    exact hrole.resolve_left (by simp [hkind])

/-- What is a condition is a value too, except that a truth value without a type is a condition of
its own. -/
theorem accepts_condition {e : Scalar} :
    Accepts aliases .condition e ↔
      (∃ b, e = .literal (.bool b) none) ∨
        (e.isPredicate ∨ e.outputType = some .boolean) ∧ Accepts aliases .value e := by
  cases e with
  | literal value type =>
    rw [accepts_condition_literal]
    simp [Scalar.isPredicate]
  | column table name type =>
    rw [accepts_column, accepts_column]
    simp [Scalar.isPredicate, Scalar.outputType]
  | param name type =>
    rw [accepts_param, accepts_param]
    simp [Scalar.isPredicate, Scalar.outputType]
  | op kind args type filter =>
    rw [accepts_condition_op]
    simp [Scalar.isPredicate]

/-! ## Nodes -/

theorem checkNode_eq_ok {node : Node} :
    checkNode node handler = .ok () ↔
      handler.arity.admits node.args.length ∧
        (handler = .special .cast → node.type.isSome) := by
  unfold checkNode
  cases hadmits : handler.arity.admits node.args.length with
  | false => simp
  | true => cases node.type <;> simp

/-- Operands are lowered when each of them is, in the role in which the handler takes it. -/
theorem exists_lowerOperands {position : Nat} :
    (∃ operands, (lowerOperands aliases handler position args).result = .ok operands) ↔
      ∀ i a, args[i]? = some a → Accepts aliases (operandRole handler (position + i)) a := by
  induction args generalizing position with
  | nil => simp [lowerOperands]
  | cons arg rest ih =>
    rw [lowerOperands, Lowering.exists_result_bind fun _ _ => Lowering.exists_result_bind_pure, ih]
    -- the operand after the first one at `i` is the one at `i + 1`
    constructor
    · rintro ⟨hfirst, hrest⟩ i a hget
      cases i with
      | zero =>
        cases hget
        exact hfirst
      | succ i =>
        have hoperand := hrest i a hget
        rwa [Nat.add_assoc, Nat.add_comm 1 i] at hoperand
    · intro hall
      refine ⟨hall 0 arg rfl, ?_⟩
      intro i a hget
      rw [Nat.add_assoc, Nat.add_comm 1 i]
      exact hall (i + 1) a hget

theorem length_of_lowerOperands {position : Nat} {operands : List Expr}
    (h : (lowerOperands aliases handler position args).result = .ok operands) :
    operands.length = args.length := by
  induction args generalizing position operands with
  | nil =>
    rw [lowerOperands, Lowering.result_pure] at h
    cases h
    rfl
  | cons arg rest ih =>
    rw [lowerOperands] at h
    simp only [Lowering.result_bind_eq_ok, Lowering.result_pure] at h
    obtain ⟨x, -, xs, hxs, h⟩ := h
    cases h
    rw [List.length_cons, List.length_cons, ih hxs]

/-- A filter is lowered when it is not read at all, or when it is a condition. -/
theorem exists_lowerFilter :
    (∃ condition, (lowerFilter aliases handler filter).result = .ok condition) ↔
      (readsFilter handler → ∀ f ∈ filter, Accepts aliases .condition f) := by
  cases filter with
  | none => simp [lowerFilter]
  | some f =>
    rw [lowerFilter]
    split
    · next hreads =>
      rw [Lowering.exists_result_bind_pure]
      simp [hreads, Accepts]
    · next hreads => simp [hreads]

theorem exists_reduced {boolCast : Option LogicalType} {operand : Scalar} {e : Expr}
    {condition : Option Expr} (hcast : ∀ type ∈ boolCast, type.native?.isSome) :
    ∃ x, reduced boolCast operand e condition = .ok x := by
  simp only [reduced_eq_ok]
  split
  · cases boolCast with
    | none => simp
    | some type =>
      obtain ⟨value, hvalue⟩ := exists_castTo.2 (hcast type rfl)
      exact ⟨_, value, hvalue, rfl⟩
  · simp

theorem exists_cons_cons {α : Type} {l : List α} (h : 2 ≤ l.length) :
    ∃ x y rest, l = x :: y :: rest := by
  match l, h with
  | x :: y :: rest, _ => exact ⟨x, y, rest, rfl⟩

/-- Operations with a form of their own. -/
theorem exists_assemble_special {node : Node} {form : SpecialForm} {operands : List Expr}
    {condition : Option Expr} (harity : form.arity.admits operands.length)
    (hlength : operands.length = node.args.length) :
    (∃ x, assemble node (.special form) operands condition = .ok x) ↔
      (form = .cast → ∃ t ∈ node.type, t.native?.isSome) := by
  cases form with
  | membership negated =>
    obtain ⟨x, values, rfl⟩ := List.exists_cons_of_length_pos (Arity.le_of_admits harity)
    simp [assemble]
  | connective _ | floorDivide =>
    obtain ⟨x, y, rfl⟩ := List.length_eq_two.1 (Arity.eq_of_admits_exactly harity)
    simp [assemble]
  | negation | nullTest | minus =>
    obtain ⟨x, rfl⟩ := List.length_eq_one_iff.1 (Arity.eq_of_admits_exactly harity)
    simp [assemble]
  | choice =>
    obtain ⟨c, x, y, rfl⟩ := List.length_eq_three.1 (Arity.eq_of_admits_exactly harity)
    simp [assemble]
  | cast =>
    obtain ⟨x, rfl⟩ := List.length_eq_one_iff.1 (Arity.eq_of_admits_exactly harity)
    cases htype : node.type with
    | none => simp [assemble, htype, assemble.mismatch]
    | some type => simp [assemble, htype, exists_castTo]
  | find =>
    obtain ⟨x, y, rest, rfl⟩ := exists_cons_cons (Arity.le_of_admits harity)
    simp [assemble]
  | substring =>
    obtain ⟨x, y, rest, rfl⟩ := exists_cons_cons (Arity.le_of_admits harity)
    obtain ⟨arg, start, length, hargs⟩ := exists_cons_cons (hlength ▸ Arity.le_of_admits harity)
    simp [assemble, hargs]
  | datePart part =>
    obtain ⟨x, rfl⟩ := List.length_eq_one_iff.1 (Arity.eq_of_admits_exactly harity)
    simp [assemble, exists_castTo, LogicalType.native?]

/-- Operands of a number that the handler takes are put together, except in a cast to a type that
the server does not have. -/
theorem exists_assemble {node : Node} {operands : List Expr} {condition : Option Expr}
    (hserves : handler.Serves node.kind)
    (hsupported : handler ≠ .unsupported) (harity : handler.arity.admits node.args.length)
    (hlength : operands.length = node.args.length) :
    (∃ x, assemble node handler operands condition = .ok x) ↔
      (node.kind = .cast → ∃ t ∈ node.type, t.native?.isSome) := by
  rw [← hserves.cast]
  rw [← hlength] at harity
  cases handler with
  | unary name | fixed name n | variadic name => simp [assemble]
  | binary op =>
    obtain ⟨x, y, rfl⟩ := List.length_eq_two.1 (Arity.eq_of_admits_exactly harity)
    simp [assemble]
  | reduction name boolCast =>
    obtain ⟨x, rfl⟩ := List.length_eq_one_iff.1 (Arity.eq_of_admits_exactly harity)
    obtain ⟨arg, hargs⟩ := List.length_eq_one_iff.1 hlength.symm
    obtain ⟨value, hvalue⟩ := @exists_reduced boolCast arg x condition hserves.boolCast
    simp [assemble, hargs, exceptBind_eq_ok, hvalue, pure, Except.pure]
  | special form => simpa using exists_assemble_special harity hlength
  | unsupported => exact absurd rfl hsupported

/-- A node is lowered when the server has its operation for as many operands, a cast has a type of
the server, and the operands and the filter are lowered in the roles in which the operation takes
them. -/
theorem accepts_value_op :
    Accepts aliases .value (.op kind args type filter) ↔
      kind.Takes args.length ∧ (kind = .cast → ∃ t ∈ type, t.native?.isSome) ∧
      (∀ i a, args[i]? = some a → Accepts aliases (kind.operandRole i) a) ∧
      (kind ∈ Operation.filtered → ∀ f ∈ filter, Accepts aliases .condition f) := by
  rw [Operation.takes_iff]
  show (∃ x, _ = Except.ok x) ↔ _
  simp only [result_lower_op, checkRole_eq_ok, handlerFor_eq_ok, checkNode_eq_ok]
  constructor
  · rintro ⟨_, -, handler, operands, condition, e, ⟨hget, hsupported⟩, ⟨harity, -⟩, ho, hc, he, -⟩
    have hserves := serves_of_get? hget hsupported
    have hargs := exists_lowerOperands.1 ⟨operands, ho⟩
    have hfilter := exists_lowerFilter.1 ⟨condition, hc⟩
    have hcast := (exists_assemble hserves hsupported harity (length_of_lowerOperands ho)).1 ⟨e, he⟩
    refine ⟨⟨handler, hget, hsupported, harity⟩, hcast, ?_, ?_⟩
    · intro i a ha
      rw [← hserves.role]
      simpa using hargs i a ha
    · intro hkind
      exact hfilter (hserves.filter.2 hkind)
  · rintro ⟨⟨handler, hget, hsupported, harity⟩, hcast, hargs, hfilter⟩
    have hserves := serves_of_get? hget hsupported
    have hoperands : ∀ i a, args[i]? = some a →
        Accepts aliases (operandRole handler (0 + i)) a := by
      intro i a ha
      rw [Nat.zero_add, hserves.role]
      exact hargs i a ha
    obtain ⟨operands, ho⟩ := exists_lowerOperands.2 hoperands
    obtain ⟨condition, hc⟩ := exists_lowerFilter.2 fun hreads => hfilter (hserves.filter.1 hreads)
    have hlength := length_of_lowerOperands ho
    obtain ⟨e, he⟩ := (@exists_assemble handler ⟨kind, args, type, filter⟩ operands condition
      hserves hsupported harity hlength).2 hcast
    refine ⟨_, nofun, handler, operands, condition, e, ⟨hget, hsupported⟩, ⟨harity, ?_⟩, ho, hc,
      he, rfl⟩
    intro hhandler
    obtain ⟨t, ht, -⟩ := hcast (hserves.cast.1 hhandler)
    exact Option.isSome_iff_exists.2 ⟨t, ht⟩

end Lower

/-! ## The recursion -/

theorem expressible_condition {tables : List TableName} {e : Scalar} :
    Expressible tables .condition e ↔
      (∃ b, e = .literal (.bool b) none) ∨
        (e.isPredicate ∨ e.outputType = some .boolean) ∧ Expressible tables .value e := by
  constructor
  · intro h
    cases h with
    | predicate hpredicate he => exact .inr ⟨.inl hpredicate, he⟩
    | truth b => exact .inl ⟨b, rfl⟩
    | boolean htype he => exact .inr ⟨.inr htype, he⟩
  · rintro (⟨b, rfl⟩ | ⟨hpredicate | htype, he⟩)
    · exact .truth b
    · exact .predicate hpredicate he
    · exact .boolean htype he

/-- What holds of an expression as a value settles it as a condition. -/
theorem accepts_iff_of_value {aliases : Aliases} {e : Scalar}
    (h : Lower.Accepts aliases .value e ↔ Expressible aliases.tables .value e) (role : Role) :
    Lower.Accepts aliases role e ↔ Expressible aliases.tables role e := by
  cases role with
  | value => exact h
  | condition => rw [Lower.accepts_condition, expressible_condition, h]

theorem accepts_value_iff (aliases : Aliases) (e : Scalar) :
    Lower.Accepts aliases .value e ↔ Expressible aliases.tables .value e := by
  induction e using Scalar.induct with
  | literal value type =>
    rw [Lower.accepts_value_literal, Lower.exists_literal]
    constructor
    · rintro ⟨hfinite, htype⟩
      exact .literal hfinite htype
    · intro h
      cases h with
      | literal hfinite htype => exact ⟨hfinite, htype⟩
  | column table name type =>
    rw [Lower.accepts_column]
    constructor
    · rintro ⟨-, htype, htable⟩
      obtain ⟨type, rfl⟩ := Option.isSome_iff_exists.1 htype
      exact .column htable name type
    · intro h
      cases h with
      | column htable name type => exact ⟨nofun, rfl, htable⟩
  | param name type =>
    rw [Lower.accepts_param]
    constructor
    · rintro ⟨-, hname⟩
      exact .param hname type
    · intro h
      cases h with
      | param hname type => exact ⟨nofun, hname⟩
  | op kind args type filter ihargs ihfilter =>
    -- operands stand in both roles, and the induction is on values only
    have hargs : ∀ i a, args[i]? = some a → ∀ role,
        (Lower.Accepts aliases role a ↔ Expressible aliases.tables role a) :=
      fun i a ha => accepts_iff_of_value (ihargs a (List.mem_of_getElem? ha))
    have hfilter : ∀ f ∈ filter, ∀ role,
        (Lower.Accepts aliases role f ↔ Expressible aliases.tables role f) :=
      fun f hf => accepts_iff_of_value (ihfilter f hf)
    rw [Lower.accepts_value_op]
    constructor
    · rintro ⟨htakes, hcast, haccepted, hcondition⟩
      refine .op htakes hcast ?_ ?_
      · intro i a ha
        exact (hargs i a ha _).1 (haccepted i a ha)
      · intro hkind f hf
        exact (hfilter f hf _).1 (hcondition hkind f hf)
    · intro h
      cases h with
      | op htakes hcast hexpressible hcondition =>
        refine ⟨htakes, hcast, ?_, ?_⟩
        · intro i a ha
          exact (hargs i a ha _).2 (hexpressible i a ha)
        · intro hkind f hf
          exact (hfilter f hf _).2 (hcondition hkind f hf)

/-- In a scope, exactly the expressions that its tables can express are lowered, as values and as
conditions; every other expression is refused with an error. -/
theorem lowered_iff_expressible (s : Scope) (e : Scalar) :
    ((∃ x, (s.lower .value e).1 = .ok x) ↔ Expressible s.aliases.tables .value e) ∧
    ((∃ x, (s.lower .condition e).1 = .ok x) ↔ Expressible s.aliases.tables .condition e) := by
  have hvalue := accepts_value_iff s.aliases e
  have hcondition := accepts_iff_of_value hvalue .condition
  rw [s.lower_eq, s.lower_eq]
  exact ⟨hvalue, hcondition⟩

/-- In particular a whole number, as the start of a substring or elsewhere, is expressible without
any table. -/
example (n : Int64) : Expressible [] .value (.literal (.int n) none) :=
  .literal nofun nofun

end TransactSql
