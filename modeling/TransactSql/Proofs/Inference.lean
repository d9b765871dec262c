import Mathlib
import TransactSql.Proofs.Evaluation
import TransactSql.Proofs.References

/-!
# Which expressions are bits

Truth values are bits in the database. Which expressions of a statement are bits, the server sees
from the types of columns and parameters and from all branches of what is written (`Expr.isBit`).
The type of an expression before it is lowered is inferred from one of its branches instead.

What is written as a bit is inferred to be a truth value (`Lower.boolean_of_isBit`), if the branches
that decide the types are not the bare null, which has no type, and if no other type is annotated.
-/

namespace TransactSql

open Sql (Expr)

namespace Sql.Expr

/-! ## Types of the server -/

/-- Whether an expression is the bare literal null. -/
def isNullLiteral : Expr → Bool
  | .literal .null => true
  | _ => false

/-- Whether there are branches, all of which are bits. -/
def agreed (branches : List Bool) : Bool :=
  !branches.isEmpty && branches.all id

section

variable (types : Expr → Option NativeType)

mutual

/-- Whether the server takes an expression for a bit, given the types of columns and parameters.
`COALESCE` and `CASE` are bits if their branches are, where the bare null does not count. -/
def isBit : Expr → Bool
  | .column table name => types (.column table name) = some .bit
  | .param name => types (.param name) = some .bit
  | .cast _ type => type = NativeType.bit.sql
  | .call function args _ => function = "coalesce" && agreed (bits args)
  | .case _ branches otherwise => agreed (bitsOfBranches branches ++ bitsOfOption otherwise)
  | .paren x => x.isBit
  | _ => false

/-- Which expressions of a list are bits, without the bare nulls. -/
def bits : List Expr → List Bool
  | [] => []
  | x :: rest => if x.isNullLiteral then bits rest else x.isBit :: bits rest

/-- Which results of branches are bits, without the bare nulls. -/
def bitsOfBranches : List (Expr × Expr) → List Bool
  | [] => []
  | (_, x) :: rest =>
    if x.isNullLiteral then bitsOfBranches rest else x.isBit :: bitsOfBranches rest

/-- Whether an expression that may be absent is a bit, unless it is the bare null. -/
def bitsOfOption : Option Expr → List Bool
  | none => []
  | some x => if x.isNullLiteral then [] else [x.isBit]

end

end

variable {types : Expr → Option NativeType}

theorem isBit_function (name : String) (args : List Expr) :
    (function name args).isBit types = (name = "coalesce" && agreed (bits types args)) := by
  rw [function, isBit]

/-- A `COALESCE` is no bit unless each of its arguments is one, bare nulls apart. -/
theorem isBit_of_mem {args : List Expr} (h : agreed (bits types args)) {x : Expr} (hx : x ∈ args)
    (hnull : x.isNullLiteral = false) : x.isBit types := by
  have hmem : x.isBit types ∈ bits types args := by
    clear h
    induction args with
    | nil => cases hx
    | cons y args ih =>
      rw [bits]
      rcases List.mem_cons.1 hx with rfl | hx
      · simp [hnull]
      · split
        · exact ih hx
        · exact List.mem_cons_of_mem _ (ih hx)
  have hall := (Bool.and_eq_true_iff.1 h).2
  exact List.all_eq_true.1 hall _ hmem

/-- A `CASE` is no bit unless its first result is one or the bare null. -/
theorem isBit_of_caseWhen {c x y : Expr} (h : (caseWhen c x y).isBit types)
    (hnull : x.isNullLiteral = false) : x.isBit types := by
  rw [caseWhen, isBit, bitsOfBranches, hnull, agreed] at h
  simp only [Bool.and_eq_true] at h
  exact List.all_eq_true.1 h.2 _ (by simp)

/-- The bare null beside a result does not change whether it is a bit. -/
theorem isBit_caseWhen_null (c x : Expr) (h : x.isBit types = false) :
    (caseWhen c x .null).isBit types = false := by
  rw [caseWhen, isBit, bitsOfBranches, bitsOfBranches, bitsOfOption]
  cases hnull : x.isNullLiteral with
  | true => rfl
  | false => simp [agreed, h]

end Sql.Expr

/-- No other type is written as a bit is. -/
theorem NativeType.eq_bit_of_sql {type : NativeType} (h : type.sql = NativeType.bit.sql) :
    type = .bit := by
  cases type with
  | bit => rfl
  | decimal precision scale =>
    have hhead := congrArg (fun s : String => s.toList.head?) h
    simp [sql] at hhead
  | _ => exact absurd h (by decide)

theorem LogicalType.eq_boolean_of_native? {type : LogicalType} (h : type.native? = some .bit) :
    type = .boolean := by
  cases type with
  | boolean => rfl
  | _ => simp [native?] at h

/-! ## Inferred types -/

namespace Scalar

/-- Whether an expression is the null without a type. -/
def isBareNull : Scalar → Bool
  | literal .null none => true
  | _ => false

mutual

/-- Whether the branches that the type of an expression is inferred from have types. Where a type is
annotated it is taken instead, and has to be that of truth values; the rules drop it for `ifNull`.
Operations without branches are never bits, whatever their types are. -/
def typeDecided : Scalar → Bool
  | op .coalesce args none _ | op .ifNull args _ _ => branchDecided args 0
  | op .choose args none _ => branchDecided args 1
  | op .coalesce _ (some type) _ | op .choose _ (some type) _ => type = .boolean
  | _ => true

/-- `typeDecided` for the branch at a position, which has to be more than the bare null. -/
def branchDecided : List Scalar → Nat → Bool
  | [], _ => true
  | a :: _, 0 => !a.isBareNull && a.typeDecided
  | _ :: rest, position + 1 => branchDecided rest position

end

variable {kind : Operation} {args : List Scalar} {type : Option LogicalType}
  {filter : Option Scalar}

theorem branchDecided_iff {i : Nat} :
    branchDecided args i ↔ ∀ a ∈ args[i]?, a.isBareNull = false ∧ a.typeDecided := by
  induction args generalizing i with
  | nil => simp [branchDecided]
  | cons a rest ih =>
    cases i with
    | zero => simp [branchDecided]
    | succ i => simp [branchDecided, ih]

/-- Rules make operations, and a bare null is none. -/
theorem isBareNull_normalForm (e : Scalar) : e.normalForm.isBareNull = e.isBareNull := by
  cases e with
  | op kind args type filter =>
    by_cases hredex : (Node.mk kind args type filter).isRedex
    · obtain ⟨x, lo, hi, rfl, rfl⟩ | ⟨x, rfl, rfl⟩ | ⟨x, y, rfl, rfl⟩ := isRedex_cases hredex
      all_goals rfl
    · rw [normalForm_of_not_isRedex (Bool.eq_false_iff.2 hredex)]
      rfl
  | _ => rfl

/-- The rules keep decided types: what they make has no branches but those that were there. -/
theorem typeDecided_normalForm {e : Scalar} (h : e.typeDecided) : e.normalForm.typeDecided := by
  induction e using induct with
  | literal value type => exact h
  | column table name type => exact h
  | param name type => exact h
  | op kind args type filter ihargs _ =>
    have hbranch : ∀ i, branchDecided args i → branchDecided (args.map normalForm) i := by
      intro i hi
      rw [branchDecided_iff] at hi ⊢
      intro b hb
      rw [List.getElem?_map] at hb
      obtain ⟨a, ha, rfl⟩ := Option.map_eq_some_iff.1 hb
      obtain ⟨hnull, hdecided⟩ := hi a ha
      exact ⟨(isBareNull_normalForm a).trans hnull, ihargs a (List.mem_of_getElem? ha) hdecided⟩
    by_cases hredex : (Node.mk kind args type filter).isRedex
    · obtain ⟨x, lo, hi, rfl, rfl⟩ | ⟨x, rfl, rfl⟩ | ⟨x, y, rfl, rfl⟩ := isRedex_cases hredex
      · rfl
      · rfl
      · -- `ifNull` becomes a `COALESCE` of the same branches
        exact hbranch 0 h
    · rw [normalForm_of_not_isRedex (Bool.eq_false_iff.2 hredex)]
      cases kind with
      | ifNull => exact hbranch 0 h
      | coalesce =>
        cases type with
        | none => exact hbranch 0 h
        | some t => exact h
      | choose =>
        cases type with
        | none => exact hbranch 1 h
        | some t => exact h
      | _ => rfl

theorem outputType_of_type {t : LogicalType} (h : type = some t) :
    (op kind args type filter).outputType = some t := by
  subst h
  rfl

/-- A node whose type is that of an operand. -/
theorem outputType_of_operand {t : LogicalType} {i : Nat} {a : Scalar}
    (hresult : kind.resultType = .ofOperand i) (ha : args[i]? = some a)
    (h : a.outputType = some t) : (op kind args none filter).outputType = some t := by
  rw [outputType_op_none, hresult]
  simp only
  rw [ha, Option.bind_some, h]

/-- What an operand refers to, its operation refers to. -/
theorem references_subset_of_mem {a : Scalar} (ha : a ∈ args) :
    a.references ⊆ (op kind args type filter).references := by
  intro r hr
  rw [references_op, Operation.mem_arrange]
  exact .inl ⟨_, List.mem_map_of_mem ha, hr⟩

/-- What the filter of a reduction refers to, the reduction refers to. -/
theorem references_subset_of_filter {f : Scalar} (hkind : kind.isReduction) :
    f.references ⊆ (op kind args type (some f)).references := by
  intro r hr
  rw [references_op, Operation.mem_arrange]
  exact .inr ⟨hkind, hr⟩

/-- Only what is declared as a truth value is taken for a bit, with aliases for these tables. -/
def DeclaresBits (types : Expr → Option NativeType) (tables : List TableName) (e : Scalar) : Prop :=
  ∀ r ∈ e.references, ∀ x, Resolves tables r x → types x = some .bit →
    r.outputType = some .boolean

theorem DeclaresBits.of_subset {types : Expr → Option NativeType} {tables : List TableName}
    {e e' : Scalar} (h : e.DeclaresBits types tables) (hsub : e'.references ⊆ e.references) :
    e'.DeclaresBits types tables :=
  fun r hr => h r (hsub hr)

end Scalar

/-! ## The registry -/

/-- What the types of operations rest on: `COALESCE`, `CASE` and casts belong to one operation each,
and aggregate functions to reductions, which cast truth values to something else. -/
def Handler.mindsBits (op : Operation) : Handler → Bool
  | unary name | fixed name _ | variadic name =>
    name ∉ Semantics.aggregates && (name ≠ "coalesce" || op = .coalesce)
  | reduction name boolCast =>
    name ∈ Semantics.aggregates && boolCast.any (· ≠ .boolean)
  | special .choice => op = .choose
  | special .cast => op = .cast
  | binary _ | special _ | unsupported => true

theorem mindsBits_server (op : Operation) :
    (Registry.server.get? op).all (Handler.mindsBits op) := by
  cases op with
  | extract part => cases part <;> decide
  | _ => decide

theorem mindsBits_of_handlerFor {node : Node} {handler : Handler}
    (h : Registry.server.handlerFor node = .ok handler) : handler.mindsBits node.kind := by
  have hminds := mindsBits_server node.kind
  rw [(get?_of_handlerFor h).1] at hminds
  simpa using hminds

namespace Lower

variable {aliases : Aliases} {handler : Handler} {types : Expr → Option NativeType}

/-- The lowered operand at a position is that of the operand there. -/
theorem getElem?_of_lowerOperands {position : Nat} {args : List Scalar} {operands : List Expr}
    (h : (lowerOperands aliases handler position args).result = .ok operands) {i : Nat} {x : Expr}
    (hx : operands[i]? = some x) :
    ∃ a, args[i]? = some a ∧
      (lower aliases (operandRole handler (position + i)) a).result = .ok x := by
  induction args generalizing position operands i with
  | nil =>
    rw [lowerOperands, Lowering.result_pure] at h
    cases h
    simp at hx
  | cons a rest ih =>
    rw [lowerOperands] at h
    simp only [Lowering.result_bind_eq_ok, Lowering.result_pure] at h
    obtain ⟨y, hy, ys, hys, h⟩ := h
    cases h
    cases i with
    | zero =>
      cases hx
      exact ⟨a, rfl, hy⟩
    | succ i =>
      obtain ⟨b, hb, hlower⟩ := ih hys hx
      refine ⟨b, hb, ?_⟩
      rwa [Nat.add_assoc, Nat.add_comm 1 i] at hlower

/-! ## Bare nulls -/

theorem isNullLiteral_of_castTo {e x : Expr} {type : LogicalType} (h : castTo e type = .ok x) :
    x.isNullLiteral = false := by
  obtain ⟨native, -, rfl⟩ := castTo_eq_ok.1 h
  rfl

/-- Operations do not make bare nulls. -/
theorem isNullLiteral_of_assemble {node : Node} {operands : List Expr} {filter : Option Expr}
    {x : Expr} (h : assemble node handler operands filter = .ok x) : x.isNullLiteral = false := by
  cases handler with
  | unary name | fixed name n | variadic name =>
    cases h
    rfl
  | binary op =>
    simp only [assemble] at h
    split at h
    · cases h
      rfl
    · cases h
  | reduction name boolCast =>
    simp only [assemble] at h
    split at h
    · obtain ⟨y, -, h⟩ := exceptBind_eq_ok.1 h
      cases h
      rfl
    · cases h
  | special form =>
    cases form with
    | cast | datePart =>
      simp only [assemble] at h
      split at h
      · exact isNullLiteral_of_castTo h
      · cases h
    | _ =>
      simp only [assemble] at h
      split at h
      · cases h
        rfl
      · cases h
  | unsupported => cases h

/-- A literal has its natural form, or is cast to a type that is given and not its natural one. -/
theorem literal_cases {value : Value} {type : Option LogicalType} {x : Expr}
    (h : literal value type = .ok x) :
    (naturalLiteral value = .ok x ∧ ∀ t ∈ type, value.naturalType = some t) ∨
      ∃ t y, type = some t ∧ naturalLiteral value = .ok y ∧ castTo y t = .ok x := by
  unfold literal at h
  obtain ⟨y, hy, h⟩ := exceptBind_eq_ok.1 h
  cases type with
  | none =>
    cases h
    exact .inl ⟨hy, nofun⟩
  | some t =>
    simp only at h
    split at h
    · next hnatural =>
      cases h
      refine .inl ⟨hy, ?_⟩
      rintro t' ⟨⟩
      exact hnatural
    · exact .inr ⟨t, y, rfl, hy, h⟩

/-- The natural forms of literals are no bits. -/
theorem isBit_of_naturalLiteral {value : Value} {x : Expr} (h : naturalLiteral value = .ok x) :
    x.isBit types = false := by
  cases value with
  | float f =>
    simp only [naturalLiteral] at h
    split at h
    · cases h
      rfl
    · cases h
  | timestamp t =>
    cases h
    rw [Expr.isBit]
    decide
  | _ =>
    cases h
    rfl

theorem eq_null_of_naturalLiteral {value : Value} {x : Expr} (h : naturalLiteral value = .ok x)
    (hnull : x.isNullLiteral) : value = .null := by
  cases value with
  | null => rfl
  | float f =>
    simp only [naturalLiteral] at h
    split at h
    · cases h
      cases hnull
    · cases h
  | _ =>
    cases h
    cases hnull

theorem column_of_lower {table : TableName} {name : String} {type : Option LogicalType} {x : Expr}
    (h : (lower aliases .value (.column table name type)).result = .ok x) :
    column aliases table name type = .ok x := by
  rw [lower] at h
  simp only [Lowering.result_bind_eq_ok, Lowering.result_ofExcept, Lowering.result_pure] at h
  obtain ⟨_, -, y, hy, h⟩ := h
  cases h
  exact hy

theorem param_of_lower {name : String} {type : LogicalType} {x : Expr}
    (h : (lower aliases .value (.param name type)).result = .ok x) :
    isParamName name ∧ x = .param name := by
  rw [lower] at h
  simp only [Lowering.result_bind_eq_ok, Lowering.result_pure, Lowering.result_note_eq_ok] at h
  obtain ⟨_, -, _, hname, h⟩ := h
  cases h
  exact ⟨hname, rfl⟩

/-- Only the literal null without a type is lowered to the bare null. -/
theorem eq_null_of_lower {e : Scalar} {x : Expr} (h : (lower aliases .value e).result = .ok x)
    (hnull : x.isNullLiteral) : e = .literal .null none := by
  cases e with
  | literal value type =>
    obtain ⟨hnatural, htype⟩ | ⟨t, y, -, -, hcast⟩ := literal_cases (result_lower_literal .. ▸ h)
    · obtain rfl := eq_null_of_naturalLiteral hnatural hnull
      cases type with
      | none => rfl
      | some t => cases htype t rfl
    · rw [isNullLiteral_of_castTo hcast] at hnull
      cases hnull
  | column table name type =>
    obtain ⟨-, hresolves⟩ := resolves_of_column (column_of_lower h)
    cases hresolves
    cases hnull
  | param name type =>
    obtain ⟨-, rfl⟩ := param_of_lower h
    cases hnull
  | op kind args type filter =>
    obtain ⟨-, handler, operands, condition, y, -, -, -, -, hy, rfl⟩ := result_lower_op.1 h
    have hnot := isNullLiteral_of_assemble hy
    unfold inRole at hnull
    split at hnull
    · cases hnull
    · next hrole _ => cases hrole
    · rw [hnot] at hnull
      cases hnull

/-! ## Inferred and written types -/

theorem boolean_of_castTo {e x : Expr} {type : LogicalType} (h : castTo e type = .ok x)
    (hbit : x.isBit types) : type = .boolean := by
  obtain ⟨native, hnative, rfl⟩ := castTo_eq_ok.1 h
  have hsql : native.sql = NativeType.bit.sql := by
    rw [Expr.isBit] at hbit
    exact of_decide_eq_true hbit
  rw [NativeType.eq_bit_of_sql hsql] at hnative
  exact LogicalType.eq_boolean_of_native? hnative

/-- A node that is written as a bit: a cast to a truth value, or an operation with branches, whose
deciding branch is a bit then, unless it is the bare null. -/
theorem bit_of_assemble {node : Node} {operands : List Expr} {filter : Option Expr} {x : Expr}
    (hminds : handler.mindsBits node.kind)
    (h : assemble node handler operands filter = .ok x) (hbit : x.isBit types) :
    node.type = some .boolean ∨
      ∃ i y, (node.kind = .coalesce ∧ i = 0 ∨ node.kind = .choose ∧ i = 1) ∧
        operandRole handler i = .value ∧ operands[i]? = some y ∧
        (y.isNullLiteral = false → y.isBit types) := by
  cases handler with
  | unary name | fixed name n | variadic name =>
    cases h
    rw [Expr.isBit_function, Bool.and_eq_true, decide_eq_true_eq] at hbit
    obtain ⟨rfl, hagreed⟩ := hbit
    obtain ⟨-, hkind⟩ : "coalesce" ∉ Semantics.aggregates ∧ node.kind = .coalesce := by
      simpa [Handler.mindsBits] using hminds
    cases operands with
    | nil => cases hagreed
    | cons y operands =>
      refine .inr ⟨0, y, .inl ⟨hkind, rfl⟩, rfl, rfl, ?_⟩
      exact Expr.isBit_of_mem hagreed (by simp)
  | binary op =>
    simp only [assemble] at h
    split at h
    · cases h
      cases hbit
    · cases h
  | reduction name boolCast =>
    simp only [assemble] at h
    split at h
    · obtain ⟨y, -, h⟩ := exceptBind_eq_ok.1 h
      cases h
      rw [Expr.isBit_function, Bool.and_eq_true, decide_eq_true_eq] at hbit
      obtain ⟨rfl, -⟩ := hbit
      simp only [Handler.mindsBits, Bool.and_eq_true, decide_eq_true_eq] at hminds
      exact absurd hminds.1 (by decide)
    · cases h
  | special form =>
    cases form with
    | choice =>
      simp only [assemble] at h
      split at h
      · next c y z =>
        cases h
        have hkind : node.kind = .choose := by simpa [Handler.mindsBits] using hminds
        exact .inr ⟨1, y, .inr ⟨hkind, rfl⟩, rfl, rfl, Expr.isBit_of_caseWhen hbit⟩
      · cases h
    | cast =>
      simp only [assemble] at h
      split at h
      · next t htype =>
        rw [htype, boolean_of_castTo h hbit]
        exact .inl rfl
      · cases h
    | datePart part =>
      simp only [assemble] at h
      split at h
      · cases boolean_of_castTo h hbit
      · cases h
    | find | substring | floorDivide | membership | connective | negation | nullTest | minus =>
      simp only [assemble] at h
      split at h
      · cases h
        cases hbit
      · cases h
  | unsupported => cases h

/-- What is written as a bit is inferred to be a truth value. -/
theorem boolean_of_isBit {tables : List TableName} (haliases : aliases.tables <+: tables)
    {e : Scalar} (hdecided : e.typeDecided) (hdeclared : e.DeclaresBits types tables) {x : Expr}
    (h : (lower aliases .value e).result = .ok x) (hbit : x.isBit types) :
    e.outputType = some .boolean := by
  induction e using Scalar.induct generalizing x with
  | literal value type =>
    obtain ⟨hnatural, -⟩ | ⟨t, y, rfl, -, hcast⟩ := literal_cases (result_lower_literal .. ▸ h)
    · rw [isBit_of_naturalLiteral hnatural] at hbit
      cases hbit
    · rw [boolean_of_castTo hcast hbit]
      rfl
  | column table name type =>
    obtain ⟨-, hresolves⟩ := resolves_of_column (column_of_lower h)
    refine hdeclared _ (by simp [Scalar.references]) x (hresolves.mono haliases) ?_
    cases hresolves
    rw [Expr.isBit] at hbit
    exact of_decide_eq_true hbit
  | param name type =>
    obtain ⟨hname, rfl⟩ := param_of_lower h
    refine hdeclared _ (by simp [Scalar.references]) _ (.param hname type) ?_
    rw [Expr.isBit] at hbit
    exact of_decide_eq_true hbit
  | op kind args type filter ihargs _ =>
    obtain ⟨-, handler, operands, condition, y, hhandler, -, ho, -, hy, rfl⟩ := result_lower_op.1 h
    have hbit : y.isBit types := by
      unfold inRole at hbit
      split at hbit
      · cases hbit
      · next hrole _ => cases hrole
      · exact hbit
    obtain htype | ⟨i, z, hi, hrole, hz, hbranch⟩ :=
      bit_of_assemble (mindsBits_of_handlerFor hhandler) hy hbit
    · exact Scalar.outputType_of_type htype
    · cases type with
      | some t =>
        have ht : t = .boolean := by
          rcases hi with ⟨hkind, -⟩ | ⟨hkind, -⟩
          · cases hkind
            exact of_decide_eq_true hdecided
          · cases hkind
            exact of_decide_eq_true hdecided
        rw [ht]
        rfl
      | none =>
        -- the deciding branch is not the bare null, so it is a bit and inferred to be a truth value
        obtain ⟨a, ha, hlower⟩ := getElem?_of_lowerOperands ho hz
        rw [Nat.zero_add, hrole] at hlower
        have hmem := List.mem_of_getElem? ha
        obtain ⟨hbranches, hresult⟩ : Scalar.branchDecided args i ∧
            kind.resultType = .ofOperand i := by
          rcases hi with ⟨hkind, rfl⟩ | ⟨hkind, rfl⟩
          · cases hkind
            exact ⟨hdecided, rfl⟩
          · cases hkind
            exact ⟨hdecided, rfl⟩
        obtain ⟨hbare, hdecided⟩ := Scalar.branchDecided_iff.1 hbranches a ha
        have hnull : z.isNullLiteral = false := by
          refine Bool.eq_false_iff.2 fun hnull => ?_
          rw [eq_null_of_lower hlower hnull] at hbare
          cases hbare
        have hboolean := ihargs a hmem hdecided
          (hdeclared.of_subset (Scalar.references_subset_of_mem hmem)) hlower (hbranch hnull)
        exact Scalar.outputType_of_operand hresult ha hboolean

end Lower

end TransactSql
