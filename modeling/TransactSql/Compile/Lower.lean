import TransactSql.Compile.Registry
import TransactSql.Compile.Scope
import TransactSql.Sql.NativeType

/-!
# Lowering expressions to SQL

An expression is lowered for the role that it plays. SQL Server has no values of boolean type: a
predicate that is needed as a value becomes `CASE WHEN p THEN 1 ELSE 0 END`, and a boolean value
that is needed as a condition becomes `x = 1`.

Operands are lowered from left to right in one scope, which lends the aliases of tables and takes
the parameters that are met. The first error is the error of the whole. The number of operands is
checked before any of them is lowered.
-/

namespace TransactSql

open Sql (Expr)

/-- What an expression is needed as. -/
inductive Role where
  | value | condition
deriving DecidableEq, Repr

/-- The column type of a type, as it stands in a cast. -/
def LogicalType.castName (type : LogicalType) : Except CompileError String :=
  match type.native? with
  | some native => .ok native.sql
  | none => .error (.unsupportedType type)

namespace Lower

/-! ## Leaves -/

/-- An expression cast to a type. -/
def castTo (e : Expr) (type : LogicalType) : Except CompileError Expr := do
  let name ← type.castName
  return .cast e name

/-- A literal in its natural type. A timestamp has no literal and is cast from its text. -/
def naturalLiteral : Value → Except CompileError Expr
  | .null => .ok .null
  | .bool b => .ok (.literal (.bool b))
  | .int n => .ok (.int n)
  | .float x =>
    if x.isFinite then .ok (.literal (.float x)) else .error (.invalidExpression (.notFinite x))
  | .string s => .ok (.literal (.string s))
  | .date d => .ok (.literal (.date d.text))
  | .timestamp t => castTo (.literal (.string t.text)) .timestamp

/-- A literal, cast where it is given a type that is not its natural one. -/
def literal (value : Value) (type : Option LogicalType) : Except CompileError Expr := do
  let e ← naturalLiteral value
  match type with
  | some t => if value.naturalType = some t then return e else castTo e t
  | none => return e

/-- A column, by the alias of its table. A column that its table lacks is refused first. -/
def column (aliases : Aliases) (table : TableName) (name : String) (type : Option LogicalType) :
    Except CompileError Expr :=
  match type with
  | none => .error (.unknownColumn table name)
  | some _ => do
    let tableAlias ← aliases.find table
    return .column (some tableAlias) name

/-! ## Nodes -/

/-- The operand of a minus sign: what could start with one is put into parentheses, since two
minus signs start a comment. -/
def minusOperand : Expr → Expr
  | .column table name => .column table name
  | .call function args distinct => .call function args distinct
  | .param name => .param name
  | other => .paren other

/-- The next position, when it is a literal that can be counted on. -/
def shiftedLiteral? : Scalar → Option Int64
  | .literal (.int n) none => if n = Int64.maxValue then none else some (n + 1)
  | _ => none

/-- A zero-based position counted from one: a literal is counted on, of any other expression the
lowered form gets one added. -/
def position (start : Scalar) (lowered : Expr) : Expr :=
  match shiftedLiteral? start with
  | some n => .int n
  | none => .binary lowered.nested .plus (.int 1)

/-- The operand of an aggregate function: a truth value is cast first, and rows that the filter
leaves out become null, which aggregate functions skip. -/
def reduced (boolCast : Option LogicalType) (operand : Scalar) (lowered : Expr)
    (filter : Option Expr) : Except CompileError Expr := do
  let value ←
    match boolCast with
    | some type => if operand.outputType = some .boolean then castTo lowered type else pure lowered
    | none => pure lowered
  match filter with
  | some condition => return .caseWhen condition value .null
  | none => return value

/-- The role in which a handler takes the operand at a position. -/
def operandRole : Handler → Nat → Role
  | .special (.connective _), _ | .special .negation, _ | .special .choice, 0 => .condition
  | _, _ => .value

/-- Whether a handler reads the filter of its node. -/
def readsFilter : Handler → Bool
  | .reduction .. => true
  | _ => false

/-- Refuses a node whose operands the handler does not take, and a cast without a type. -/
def checkNode (node : Node) (handler : Handler) : Except CompileError Unit :=
  if !handler.arity.admits node.args.length then
    .error (.invalidArity node.kind handler.arity node.args.length)
  else if handler = .special .cast && node.type.isNone then
    .error (.invalidExpression (.noTarget node.toScalar.shown))
  else .ok ()

/-- Puts the lowered operands of a node together. The searches and cuts of the server count
positions from one. -/
def assemble (node : Node) (handler : Handler) (operands : List Expr) (filter : Option Expr) :
    Except CompileError Expr :=
  match handler with
  | .unary function | .fixed function _ | .variadic function =>
    .ok (.function function operands)
  | .binary op =>
    match operands with
    | [x, y] => .ok (.binary x.nested op y.nested)
    | _ => mismatch
  | .reduction function boolCast =>
    match node.args, operands with
    | [arg], [x] => do
      let x ← reduced boolCast arg x filter
      return .function function [x]
    | _, _ => mismatch
  | .special (.membership negated) =>
    match operands with
    | x :: values => .ok (.isIn x.nested values negated)
    | _ => mismatch
  | .special (.connective op) =>
    match operands with
    | [x, y] => .ok (.binary x.nested op y.nested)
    | _ => mismatch
  | .special .negation =>
    match operands with
    | [x] => .ok (.unary .not (.paren x))
    | _ => mismatch
  | .special .nullTest =>
    match operands with
    | [x] => .ok (.isNull x.nested false)
    | _ => mismatch
  | .special .minus =>
    match operands with
    | [x] => .ok (.unary .minus (minusOperand x))
    | _ => mismatch
  | .special .choice =>
    match operands with
    | [condition, x, y] => .ok (.caseWhen condition x y)
    | _ => mismatch
  | .special .cast =>
    match operands, node.type with
    | [x], some type => castTo x type
    | _, _ => mismatch
  | .special .find =>
    match operands with
    | haystack :: needle :: start =>
      .ok (.binary (.function "charindex" (needle :: haystack :: start)) .minus (.int 1))
    | _ => mismatch
  | .special .substring =>
    match node.args, operands with
    | _ :: start :: _, x :: lowered :: length =>
      .ok (.function "substring" (x :: position start lowered :: length))
    | _, _ => mismatch
  | .special .floorDivide =>
    match operands with
    | [x, y] => .ok (.function "floor" [.binary x.nested .divide y.nested])
    | _ => mismatch
  | .special (.datePart part) =>
    match operands with
    | [x] => castTo (.function "datepart" [.raw part.name, x]) .int16
    | _ => mismatch
  | .unsupported => .error (.unsupportedOperation node.kind node.toScalar.shown)
where
  /-- Not reached by a node that `checkNode` lets through. -/
  mismatch : Except CompileError Expr :=
    .error (.invalidArity node.kind handler.arity node.args.length)

/-! ## Roles -/

/-- The condition of a truth value. -/
def truth (b : Bool) : Expr :=
  .binary (.int 1) .eq (.int (if b then 1 else 0))

/-- A lowered predicate or value in the role that it is needed in. -/
def inRole (role : Role) (isPredicate : Bool) (e : Expr) : Expr :=
  match role, isPredicate with
  | .value, true => .caseWhen e (.int 1) (.int 0)
  | .condition, false => .binary e.nested .eq (.int 1)
  | _, _ => e

/-- Refuses what is needed as a condition and is neither a predicate nor a boolean. -/
def checkRole (role : Role) (e : Scalar) : Except CompileError Unit :=
  match role, e with
  | .value, _ => .ok ()
  | .condition, e =>
    if e.outputType = some .boolean then .ok ()
    else .error (.invalidExpression (.notCondition e.shown))

/-- A literal in the role that it is needed in: a truth value without a type is a condition of
its own. -/
def literalInRole (role : Role) (value : Value) (type : Option LogicalType) :
    Except CompileError Expr :=
  match role, value, type with
  | .condition, .bool b, none => .ok (truth b)
  | role, value, type => do
    checkRole role (.literal value type)
    return inRole role false (← literal value type)

end Lower

/-! ## The recursion -/

namespace InScope

open Lower

mutual

/-- Lowers an expression for a role. -/
def lower (role : Role) : Scalar → InScope Expr
  | .literal value type => literalInRole role value type
  | .column table name type => do
    checkRole role (.column table name type)
    let e ← column (← get).aliases table name type
    return inRole role false e
  | .param name type => do
    checkRole role (.param name type)
    record name
    return inRole role false (.param name)
  | .op kind args type filter => do
    let node : Node := ⟨kind, args, type, filter⟩
    if !kind.isPredicate then checkRole role node.toScalar
    let handler ← Registry.server.handlerFor node
    checkNode node handler
    let operands ← lowerOperands handler 0 args
    let condition ← lowerFilter handler filter
    let e ← assemble node handler operands condition
    return inRole role kind.isPredicate e

/-- Lowers operands from left to right, the first of them at a position. -/
def lowerOperands (handler : Handler) (position : Nat) : List Scalar → InScope (List Expr)
  | [] => return []
  | arg :: rest => do
    let x ← lower (operandRole handler position) arg
    let xs ← lowerOperands handler (position + 1) rest
    return x :: xs

/-- Lowers the filter of a node whose handler reads it; any other filter is passed over. -/
def lowerFilter (handler : Handler) : Option Scalar → InScope (Option Expr)
  | none => return none
  | some filter =>
    if readsFilter handler then return some (← lower .condition filter) else return none

end

end InScope

/-- Lowers an expression for a role: the result, and the scope after it. -/
def Scope.lower (s : Scope) (role : Role) (e : Scalar) : Except CompileError Expr × Scope :=
  s.exec (InScope.lower role e)

end TransactSql
