import TransactSql.Proofs.Lowering
import TransactSql.Proofs.Threading

/-!
# What lowering produces

`Lowered role x` says that `x` has one of the shapes that lowering gives to an expression in that
role: which operators stand over which operands, where parentheses are, and which texts can
appear as function names, as types and as dates. `lowered_of_lower` shows that lowering gives
nothing else, so a property of lowered expressions is proved by one induction over these shapes
and never by going through the handlers again.

That the shape fits the role rests on the registry: the handler that an operation has makes a
condition exactly when the operation is a predicate (`fits_server`).
-/

namespace TransactSql

open Sql (Expr Literal BinaryOp)

/-! ## Operators and names -/

/-- The operators that compare two values. -/
def Sql.BinaryOp.isComparison : BinaryOp → Bool
  | .eq | .ne | .lt | .gt | .le | .ge => true
  | _ => false

/-- The operators that compute a value and that the server's registry uses. -/
def Sql.BinaryOp.isArithmetic : BinaryOp → Bool
  | .plus | .minus | .times | .divide | .concat => true
  | _ => false

/-- The operators that connect two conditions. -/
def Sql.BinaryOp.isConnective : BinaryOp → Bool
  | .and | .or => true
  | _ => false

/-- A name of letters and digits of ASCII only. -/
def IsPlainName (name : String) : Prop :=
  ∀ c ∈ name.toList, c.isAlphanum

instance (name : String) : Decidable (IsPlainName name) :=
  decidable_of_iff (name.toList.all Char.isAlphanum) List.all_eq_true

/-- The literals that values are written as: numbers are finite, and a date has the text of a
date. -/
def Sql.Literal.IsWritten : Literal → Prop
  | .float x => x.isFinite
  | .date text => ∃ d : Date, text = d.text
  | _ => True

/-! ## Shapes -/

/-- The expressions that lowering gives in a role. -/
inductive Lowered : Role → Expr → Prop
  | column (tableAlias name : String) : Lowered .value (.column (some tableAlias) name)
  | literal {l : Literal} (h : l.IsWritten) : Lowered .value (.literal l)
  | param {name : String} (h : isParamName name) : Lowered .value (.param name)
  | cast {x : Expr} (hx : Lowered .value x) (type : NativeType) :
      Lowered .value (.cast x type.sql)
  | function {name : String} {args : List Expr} (h : IsPlainName name)
      (hargs : ∀ x ∈ args, Lowered .value x) : Lowered .value (.function name args)
  | datePart (part : DatePart) {x : Expr} (hx : Lowered .value x) :
      Lowered .value (.function "datepart" [.raw part.name, x])
  | caseWhen {c x y : Expr} (hc : Lowered .condition c) (hx : Lowered .value x)
      (hy : Lowered .value y) : Lowered .value (.caseWhen c x y)
  | arithmetic {op : BinaryOp} {x y : Expr} (h : op.isArithmetic) (hx : Lowered .value x)
      (hy : Lowered .value y) : Lowered .value (.binary x.nested op y.nested)
  | minus {x : Expr} (hx : Lowered .value x) :
      Lowered .value (.unary .minus (Lower.minusOperand x))
  | comparison {op : BinaryOp} {x y : Expr} (h : op.isComparison) (hx : Lowered .value x)
      (hy : Lowered .value y) : Lowered .condition (.binary x.nested op y.nested)
  | connective {op : BinaryOp} {x y : Expr} (h : op.isConnective) (hx : Lowered .condition x)
      (hy : Lowered .condition y) : Lowered .condition (.binary x.nested op y.nested)
  | negation {x : Expr} (hx : Lowered .condition x) : Lowered .condition (.unary .not (.paren x))
  | membership {x : Expr} {values : List Expr} (negated : Bool) (hx : Lowered .value x)
      (hvalues : ∀ v ∈ values, Lowered .value v) :
      Lowered .condition (.isIn x.nested values negated)
  | nullTest {x : Expr} (hx : Lowered .value x) : Lowered .condition (.isNull x.nested false)

/-- Whole numbers are values. -/
theorem Lowered.int (n : Int64) : Lowered .value (.int n) :=
  .literal trivial

/-- The literal null is a value. -/
theorem Lowered.null : Lowered .value .null :=
  .literal trivial

/-! ## The registry -/

namespace Handler

/-- Whether what a handler writes has a role, with a plain name where it writes a function. -/
def fits (role : Role) : Handler → Bool
  | unary name | fixed name _ | variadic name | reduction name _ =>
    role = .value && decide (IsPlainName name)
  | binary op => if op.isComparison then role = .condition else role = .value && op.isArithmetic
  | special (.membership _) | special .negation | special .nullTest => role = .condition
  | special (.connective op) => role = .condition && op.isConnective
  | special _ => role = .value
  | unsupported => true

end Handler

/-- The role of what an operation yields. -/
def Operation.role (op : Operation) : Role :=
  if op.isPredicate then .condition else .value

/-- The server's handler of an operation makes a condition of a predicate, and a value of any
other operation. -/
theorem fits_server (op : Operation) :
    (Registry.server.get? op).all (Handler.fits op.role) := by
  cases op with
  | extract part => cases part <;> decide
  | _ => decide

/-- The handler by which a node is written is the one of its operation, and does not refuse it. -/
theorem get?_of_handlerFor {r : Registry Handler} {node : Node} {handler : Handler}
    (h : r.handlerFor node = .ok handler) :
    r.get? node.kind = some handler ∧ handler ≠ .unsupported := by
  unfold Registry.handlerFor Registry.lookup at h
  cases hget : r.get? node.kind with
  | none => simp [hget] at h
  | some found =>
    simp only [hget] at h
    split at h
    · cases h
    · next hne =>
      cases h
      exact ⟨rfl, fun hunsupported => hne (congrArg _ hunsupported)⟩

/-- The handler by which a node is written makes what the node's operation yields. -/
theorem fits_of_handlerFor {node : Node} {handler : Handler}
    (h : Registry.server.handlerFor node = .ok handler) : handler.fits node.kind.role := by
  have hfits := fits_server node.kind
  rw [(get?_of_handlerFor h).1] at hfits
  simpa using hfits

/-! ## Leaves -/

namespace Lower

/-- A cast succeeds with the name of the type's column type. -/
theorem castTo_eq_ok {e x : Expr} {type : LogicalType} :
    castTo e type = .ok x ↔ ∃ native, type.native? = some native ∧ x = .cast e native.sql := by
  unfold castTo LogicalType.castName
  rw [exceptBind_eq_ok]
  cases type.native? with
  | none => simp
  | some native => simp [pure, Except.pure, eq_comm]

theorem lowered_of_castTo {e x : Expr} {type : LogicalType} (he : Lowered .value e)
    (h : castTo e type = .ok x) : Lowered .value x := by
  obtain ⟨native, -, rfl⟩ := castTo_eq_ok.1 h
  exact .cast he native

theorem lowered_of_naturalLiteral {value : Value} {x : Expr}
    (h : naturalLiteral value = .ok x) : Lowered .value x := by
  cases value with
  | float f =>
    simp only [naturalLiteral] at h
    split at h
    · next hf =>
      cases h
      exact .literal hf
    · cases h
  | date d =>
    cases h
    exact .literal ⟨d, rfl⟩
  | timestamp t =>
    have htext : Lowered .value (.literal (.string t.text)) := .literal trivial
    exact lowered_of_castTo htext h
  | _ =>
    cases h
    exact .literal trivial

theorem lowered_of_literal {value : Value} {type : Option LogicalType} {x : Expr}
    (h : literal value type = .ok x) : Lowered .value x := by
  unfold literal at h
  obtain ⟨e, hl, h⟩ := exceptBind_eq_ok.1 h
  have he := lowered_of_naturalLiteral hl
  split at h
  · split at h
    · cases h
      exact he
    · exact lowered_of_castTo he h
  · cases h
    exact he

theorem lowered_of_column {aliases : Aliases} {table : TableName} {name : String}
    {type : Option LogicalType} {x : Expr} (h : column aliases table name type = .ok x) :
    Lowered .value x := by
  unfold column at h
  split at h
  · cases h
  · obtain ⟨tableAlias, -, h⟩ := exceptBind_eq_ok.1 h
    cases h
    exact .column tableAlias name

/-! ## Nodes -/

/-- Putting a lowered expression into the role that it is needed in. -/
theorem lowered_inRole {isPredicate : Bool} {x : Expr} (role : Role)
    (hx : Lowered (if isPredicate then .condition else .value) x) :
    Lowered role (inRole role isPredicate x) := by
  cases role with
  | value =>
    cases isPredicate with
    | true => exact .caseWhen hx (.int 1) (.int 0)
    | false => exact hx
  | condition =>
    cases isPredicate with
    | true => exact hx
    | false => exact .comparison rfl hx (.int 1)

theorem lowered_of_literalInRole {role : Role} {value : Value} {type : Option LogicalType}
    {x : Expr} (h : literalInRole role value type = .ok x) : Lowered role x := by
  unfold literalInRole at h
  split at h
  · cases h
    exact .comparison rfl (.int 1) (.int _)
  · obtain ⟨_, -, h⟩ := exceptBind_eq_ok.1 h
    obtain ⟨e, hl, h⟩ := exceptBind_eq_ok.1 h
    cases h
    exact lowered_inRole role (lowered_of_literal hl)

/-- The operand of an aggregate function is cast where it is a truth value and a type is given
for that, and then stands in a `CASE` where there is a filter. -/
theorem reduced_eq_ok {boolCast : Option LogicalType} {operand : Scalar} {e x : Expr}
    {filter : Option Expr} :
    reduced boolCast operand e filter = .ok x ↔
      ∃ value,
        (if operand.outputType = some .boolean then boolCast.elim (.ok e) (castTo e) else .ok e)
          = .ok value ∧ x = filter.elim value fun c => .caseWhen c value .null := by
  unfold reduced
  by_cases hb : operand.outputType = some .boolean <;> cases boolCast <;> cases filter <;>
    simp [hb, exceptBind_eq_ok, pure, Except.pure, @eq_comm _ x]

theorem lowered_of_reduced {boolCast : Option LogicalType} {operand : Scalar}
    {e x : Expr} {filter : Option Expr} (he : Lowered .value e)
    (hfilter : ∀ c ∈ filter, Lowered .condition c)
    (h : reduced boolCast operand e filter = .ok x) : Lowered .value x := by
  obtain ⟨value, hv, rfl⟩ := reduced_eq_ok.1 h
  have hvalue : Lowered .value value := by
    split at hv
    · cases boolCast with
      | none =>
        cases hv
        exact he
      | some type => exact lowered_of_castTo he hv
    · cases hv
      exact he
  cases filter with
  | none => exact hvalue
  | some c => exact .caseWhen (hfilter c rfl) hvalue .null

theorem lowered_position {start : Scalar} {x : Expr} (hx : Lowered .value x) :
    Lowered .value (position start x) := by
  unfold position
  split
  · exact .int _
  · exact .arithmetic rfl hx (.int 1)

/-- The operands that a handler is given, each in the role that the handler takes it in. -/
def LoweredOperands (handler : Handler) (position : Nat) (operands : List Expr) : Prop :=
  ∀ i x, operands[i]? = some x → Lowered (operandRole handler (position + i)) x

/-- Operands that are all taken as values. -/
theorem LoweredOperands.values {handler : Handler} {operands : List Expr}
    (h : LoweredOperands handler 0 operands) (hrole : ∀ i, operandRole handler i = .value) :
    ∀ x ∈ operands, Lowered .value x := by
  intro x hx
  obtain ⟨i, hi⟩ := List.mem_iff_getElem?.1 hx
  have := h i x hi
  rwa [hrole] at this

/-- Operations with a form of their own. -/
theorem lowered_of_special {node : Node} {form : SpecialForm} {operands : List Expr}
    {filter : Option Expr} {role : Role} {x : Expr} (hfits : (Handler.special form).fits role)
    (hoperands : LoweredOperands (.special form) 0 operands)
    (h : assemble node (.special form) operands filter = .ok x) : Lowered role x := by
  cases form with
  | membership negated =>
    obtain rfl : role = .condition := by simpa [Handler.fits] using hfits
    simp only [assemble] at h
    split at h
    · cases h
      have hall := hoperands.values fun _ => rfl
      exact .membership negated (hall _ (by simp)) fun v hv => hall v (by simp [hv])
    · cases h
  | connective op =>
    obtain ⟨rfl, hop⟩ : role = .condition ∧ op.isConnective := by
      simpa [Handler.fits] using hfits
    simp only [assemble] at h
    split at h
    · cases h
      exact .connective hop (hoperands 0 _ rfl) (hoperands 1 _ rfl)
    · cases h
  | negation =>
    obtain rfl : role = .condition := by simpa [Handler.fits] using hfits
    simp only [assemble] at h
    split at h
    · cases h
      exact .negation (hoperands 0 _ rfl)
    · cases h
  | nullTest =>
    obtain rfl : role = .condition := by simpa [Handler.fits] using hfits
    simp only [assemble] at h
    split at h
    · cases h
      exact .nullTest (hoperands 0 _ rfl)
    · cases h
  | minus =>
    obtain rfl : role = .value := by simpa [Handler.fits] using hfits
    simp only [assemble] at h
    split at h
    · cases h
      exact .minus (hoperands 0 _ rfl)
    · cases h
  | choice =>
    obtain rfl : role = .value := by simpa [Handler.fits] using hfits
    simp only [assemble] at h
    split at h
    · cases h
      exact .caseWhen (hoperands 0 _ rfl) (hoperands 1 _ rfl) (hoperands 2 _ rfl)
    · cases h
  | cast =>
    obtain rfl : role = .value := by simpa [Handler.fits] using hfits
    simp only [assemble] at h
    split at h
    · exact lowered_of_castTo (hoperands 0 _ rfl) h
    · cases h
  | find =>
    obtain rfl : role = .value := by simpa [Handler.fits] using hfits
    simp only [assemble] at h
    split at h
    · cases h
      next haystack needle start =>
      have hall := hoperands.values fun _ => rfl
      -- the needle comes first, and positions count from one
      have hcall : Lowered .value (.function "charindex" (needle :: haystack :: start)) := by
        refine .function (by decide) fun v hv => hall v ?_
        simpa [or_left_comm] using hv
      exact .arithmetic rfl hcall (.int 1)
    · cases h
  | substring =>
    obtain rfl : role = .value := by simpa [Handler.fits] using hfits
    simp only [assemble] at h
    split at h
    · cases h
      have hall := hoperands.values fun _ => rfl
      refine .function (by decide) fun v hv => ?_
      simp only [List.mem_cons] at hv
      rcases hv with rfl | rfl | hv
      · exact hall _ (by simp)
      · exact lowered_position (hall _ (by simp))
      · exact hall _ (by simp [hv])
    · cases h
  | floorDivide =>
    obtain rfl : role = .value := by simpa [Handler.fits] using hfits
    simp only [assemble] at h
    split at h
    · cases h
      have hx := hoperands 0 _ rfl
      have hy := hoperands 1 _ rfl
      refine .function (by decide) fun v hv => ?_
      rw [List.mem_singleton.1 hv]
      exact .arithmetic rfl hx hy
    · cases h
  | datePart part =>
    obtain rfl : role = .value := by simpa [Handler.fits] using hfits
    simp only [assemble] at h
    split at h
    · exact lowered_of_castTo (.datePart part (hoperands 0 _ rfl)) h
    · cases h

/-- What a handler puts together of lowered operands has the role that the handler fits. -/
theorem lowered_of_assemble {node : Node} {handler : Handler} {operands : List Expr}
    {filter : Option Expr} {role : Role} {x : Expr} (hfits : handler.fits role)
    (hoperands : LoweredOperands handler 0 operands)
    (hfilter : ∀ c ∈ filter, Lowered .condition c)
    (h : assemble node handler operands filter = .ok x) : Lowered role x := by
  cases handler with
  | unary name | fixed name n | variadic name =>
    simp only [Handler.fits, Bool.and_eq_true, decide_eq_true_eq] at hfits
    obtain ⟨rfl, hname⟩ := hfits
    cases h
    exact .function hname (hoperands.values fun _ => rfl)
  | binary op =>
    simp only [assemble] at h
    split at h
    · cases h
      have hx := hoperands 0 _ rfl
      have hy := hoperands 1 _ rfl
      simp only [Handler.fits] at hfits
      split at hfits
      · next hop =>
        obtain rfl : role = .condition := by simpa using hfits
        exact .comparison hop hx hy
      · obtain ⟨rfl, hop⟩ : role = .value ∧ op.isArithmetic := by simpa using hfits
        exact .arithmetic hop hx hy
    · cases h
  | reduction name boolCast =>
    simp only [Handler.fits, Bool.and_eq_true, decide_eq_true_eq] at hfits
    obtain ⟨rfl, hname⟩ := hfits
    simp only [assemble] at h
    split at h
    · obtain ⟨y, hy, h⟩ := exceptBind_eq_ok.1 h
      cases h
      have := lowered_of_reduced (hoperands 0 _ rfl) hfilter hy
      refine .function hname ?_
      simpa using this
    · cases h
  | special form => exact lowered_of_special hfits hoperands h
  | unsupported => cases h

/-! ## The recursion -/

/-- A literal as a value is lowered as it is. -/
theorem result_lower_literal (aliases : Aliases) (value : Value) (type : Option LogicalType) :
    (lower aliases .value (.literal value type)).result = literal value type := by
  rw [lower]
  exact bind_pure (literal value type)

/-- A node has a lowered form when its operation may stand in the role, its operation has a
handler that takes the node, and the operands and the filter have lowered forms that the handler
puts together. -/
theorem result_lower_op {aliases : Aliases} {role : Role} {kind : Operation}
    {args : List Scalar} {type : Option LogicalType} {filter : Option Scalar} {x : Expr} :
    (lower aliases role (.op kind args type filter)).result = .ok x ↔
      (kind.isPredicate = false → checkRole role (.op kind args type filter) = .ok ()) ∧
      ∃ handler operands condition e,
        Registry.server.handlerFor ⟨kind, args, type, filter⟩ = .ok handler ∧
        checkNode ⟨kind, args, type, filter⟩ handler = .ok () ∧
        (lowerOperands aliases handler 0 args).result = .ok operands ∧
        (lowerFilter aliases handler filter).result = .ok condition ∧
        assemble ⟨kind, args, type, filter⟩ handler operands condition = .ok e ∧
        x = inRole role kind.isPredicate e := by
  rw [lower]
  cases hp : kind.isPredicate with
  | true =>
    simp only [Bool.not_true, Bool.false_eq_true, ↓reduceIte, Lowering.result_bind_eq_ok,
      Lowering.result_ofExcept, Lowering.result_pure, Except.ok.injEq, @eq_comm _ x]
    constructor
    · rintro ⟨handler, hh, _, hn, operands, ho, condition, hc, e, he, hx⟩
      exact ⟨by simp, handler, operands, condition, e, hh, hn, ho, hc, he, hx⟩
    · rintro ⟨-, handler, operands, condition, e, hh, hn, ho, hc, he, hx⟩
      exact ⟨handler, hh, _, hn, operands, ho, condition, hc, e, he, hx⟩
  | false =>
    simp only [Bool.not_false, ↓reduceIte, Lowering.result_bind_eq_ok,
      Lowering.result_ofExcept, Lowering.result_pure, Except.ok.injEq, @eq_comm _ x]
    constructor
    · rintro ⟨_, hr, handler, hh, _, hn, operands, ho, condition, hc, e, he, hx⟩
      exact ⟨fun _ => hr, handler, operands, condition, e, hh, hn, ho, hc, he, hx⟩
    · rintro ⟨hr, handler, operands, condition, e, hh, hn, ho, hc, he, hx⟩
      exact ⟨_, hr trivial, handler, hh, _, hn, operands, ho, condition, hc, e, he, hx⟩

mutual

/-- Lowering gives nothing but lowered expressions. -/
theorem lowered_of_lower {aliases : Aliases} {role : Role} {x : Expr} :
    ∀ {e : Scalar}, (lower aliases role e).result = .ok x → Lowered role x
  | .literal value type, h => by
    rw [lower, Lowering.result_ofExcept] at h
    exact lowered_of_literalInRole h
  | .column table name type, h => by
    rw [lower] at h
    simp only [Lowering.result_bind_eq_ok, Lowering.result_ofExcept, Lowering.result_pure] at h
    obtain ⟨_, -, e, he, h⟩ := h
    cases h
    exact lowered_inRole role (lowered_of_column he)
  | .param name type, h => by
    rw [lower] at h
    simp only [Lowering.result_bind_eq_ok, Lowering.result_ofExcept, Lowering.result_pure,
      Lowering.result_note_eq_ok] at h
    obtain ⟨_, -, _, hname, h⟩ := h
    cases h
    exact lowered_inRole role (.param hname)
  | .op kind args type filter, h => by
    obtain ⟨-, handler, operands, condition, e, hh, -, ho, hc, he, rfl⟩ := result_lower_op.1 h
    -- the handler writes what the operation yields, which is then put into the role
    have hx := lowered_of_assemble (fits_of_handlerFor hh) (lowered_of_lowerOperands ho)
      (lowered_of_lowerFilter hc) he
    exact lowered_inRole role hx

theorem lowered_of_lowerOperands {aliases : Aliases} {handler : Handler} :
    ∀ {position : Nat} {args : List Scalar} {operands : List Expr},
      (lowerOperands aliases handler position args).result = .ok operands →
        LoweredOperands handler position operands
  | position, [], operands, h => by
    rw [lowerOperands, Lowering.result_pure] at h
    cases h
    intro i x hx
    simp at hx
  | position, arg :: rest, operands, h => by
    rw [lowerOperands] at h
    simp only [Lowering.result_bind_eq_ok, Lowering.result_pure] at h
    obtain ⟨y, hy, ys, hys, h⟩ := h
    cases h
    intro i x hx
    cases i with
    | zero =>
      cases hx
      exact lowered_of_lower hy
    | succ i =>
      have := lowered_of_lowerOperands hys i x hx
      rwa [Nat.add_assoc, Nat.add_comm 1 i] at this

theorem lowered_of_lowerFilter {aliases : Aliases} {handler : Handler} :
    ∀ {filter : Option Scalar} {condition : Option Expr},
      (lowerFilter aliases handler filter).result = .ok condition →
        ∀ c ∈ condition, Lowered .condition c
  | none, condition, h => by
    rw [lowerFilter, Lowering.result_pure] at h
    cases h
    simp
  | some f, condition, h => by
    rw [lowerFilter] at h
    split at h
    · simp only [Lowering.result_bind_eq_ok, Lowering.result_pure] at h
      obtain ⟨c, hc, h⟩ := h
      cases h
      intro c' hc'
      cases hc'
      exact lowered_of_lower hc
    · cases h
      simp

end

end Lower

/-- The same of lowering in a scope. -/
theorem Scope.lowered_of_lower (s : Scope) {role : Role} {e : Scalar} {x : Expr}
    (h : (s.lower role e).1 = .ok x) : Lowered role x := by
  rw [s.lower_fst] at h
  exact Lower.lowered_of_lower h

end TransactSql
