import TransactSql.Compile.Error
import TransactSql.Sql.Expr

/-!
# How operations become SQL

A handler says how one operation is written; a registry has a handler for each operation that it
knows. A registry is made from a first one, such as that of the generic handlers, by entries that
replace its handlers, and by operations that are marked as unsupported at last, so that no entry
brings those back. How registries are made does not depend on what handlers are, as long as one of
them refuses its operation.
-/

namespace TransactSql

/-- The forms that are more than a function or an operator of their operands. -/
inductive SpecialForm where
  /-- `x IN (…)`, or `x NOT IN (…)`. -/
  | membership (negated : Bool)
  /-- `AND` or `OR` of two conditions. -/
  | connective (op : Sql.BinaryOp)
  /-- `NOT` of a condition. -/
  | negation
  /-- `x IS NULL`. -/
  | nullTest
  /-- A minus sign. -/
  | minus
  /-- `CASE WHEN condition THEN a ELSE b END`. -/
  | choice
  /-- `CAST(x AS type)`. -/
  | cast
  /-- A search, with positions counted from zero. -/
  | find
  /-- A part of a string, with positions counted from zero. -/
  | substring
  /-- A quotient rounded down. -/
  | floorDivide
  /-- A field of a date or a time. -/
  | datePart (part : DatePart)
deriving DecidableEq, Repr

/-- How an operation is written. -/
inductive Handler where
  /-- A function of one operand. -/
  | unary (function : String)
  /-- A function of a fixed number of operands. -/
  | fixed (function : String) (arity : Nat)
  /-- A function of one operand or more. -/
  | variadic (function : String)
  /-- An operator between two operands. -/
  | binary (op : Sql.BinaryOp)
  /-- An aggregate function, whose operand is first cast to `boolCast` if it is a truth value. -/
  | reduction (function : String) (boolCast : Option LogicalType)
  | special (form : SpecialForm)
  /-- The operation is refused. -/
  | unsupported
deriving DecidableEq, Repr

/-- The operands that a special form takes. -/
def SpecialForm.arity : SpecialForm → Arity
  | membership _ => .atLeast 1
  | connective _ | floorDivide => .exactly 2
  | negation | nullTest | minus | cast | datePart _ => .exactly 1
  | choice => .exactly 3
  | find | substring => ⟨2, some 3⟩

namespace Handler

/-- The operands that a handler takes. -/
def arity : Handler → Arity
  | unary _ | reduction .. => .exactly 1
  | fixed _ n => .exactly n
  | variadic _ => .atLeast 1
  | binary _ => .exactly 2
  | special form => form.arity
  | unsupported => .atLeast 0

/-- A handler as a term, in listings. -/
def term : Handler → String
  | unary function => "Unary(" ++ function ++ ")"
  | fixed function n => "FixedArity(" ++ function ++ ", " ++ toString n ++ ")"
  | variadic function => "Variadic(" ++ function ++ ")"
  | binary op => "Binary(" ++ op.term ++ ")"
  | reduction function none => "Reduction(" ++ function ++ ", None)"
  | reduction function (some type) =>
    "Reduction(" ++ function ++ ", Some(" ++ type.term ++ "))"
  | special _ => "Custom"
  | unsupported => "Unsupported"

/-- The generic handler of an operation, before a server is chosen. -/
def generic? : Operation → Option Handler
  | .equals => some (binary .eq)
  | .notEquals => some (binary .ne)
  | .less => some (binary .lt)
  | .lessEqual => some (binary .le)
  | .greater => some (binary .gt)
  | .greaterEqual => some (binary .ge)
  | .isIn => some (special (.membership false))
  | .notIn => some (special (.membership true))
  | .and => some (special (.connective .and))
  | .or => some (special (.connective .or))
  | .not => some (special .negation)
  | .isNull => some (special .nullTest)
  | .nullIf => some (fixed "nullif" 2)
  | .coalesce => some (variadic "coalesce")
  | .add => some (binary .plus)
  | .subtract => some (binary .minus)
  | .multiply => some (binary .times)
  | .divide => some (binary .divide)
  | .modulus => some (binary .modulo)
  | .negate => some (special .minus)
  | .power => some (fixed "power" 2)
  | .abs => some (unary "abs")
  | .acos => some (unary "acos")
  | .asin => some (unary "asin")
  | .atan => some (unary "atan")
  | .atan2 => some (fixed "atan2" 2)
  | .ceil => some (unary "ceil")
  | .cos => some (unary "cos")
  | .floor => some (unary "floor")
  | .sign => some (unary "sign")
  | .sin => some (unary "sin")
  | .sqrt => some (unary "sqrt")
  | .tan => some (unary "tan")
  | .round => some (unary "round")
  | .log2 => some (unary "log2")
  | .ln => some (unary "ln")
  | .log10 => some (unary "log10")
  | .log => some (fixed "log" 2)
  | .exp => some (unary "exp")
  | .lowercase => some (unary "lower")
  | .uppercase => some (unary "upper")
  | .stripLeft => some (unary "ltrim")
  | .stripRight => some (unary "rtrim")
  | .strip => some (unary "trim")
  | .replicate => some (fixed "repeat" 2)
  | .reverse => some (unary "reverse")
  | .length => some (unary "length")
  | .replace => some (fixed "replace" 3)
  | .concat => some (binary .concat)
  | .padLeft => some (fixed "lpad" 3)
  | .padRight => some (fixed "rpad" 3)
  | .capitalize => some (unary "initcap")
  | .asciiCode => some (unary "ascii")
  | .like => some (binary .like)
  | .count => some (reduction "count" none)
  | .sum => some (reduction "sum" none)
  | .min => some (reduction "min" none)
  | .max => some (reduction "max" none)
  | .mean => some (reduction "avg" none)
  | .now => some (fixed "current_timestamp" 0)
  | .least => some (variadic "least")
  | .greatest => some (variadic "greatest")
  | .choose => some (special .choice)
  | .cast => some (special .cast)
  | .between | .notNull | .ifNull | .floorDivide | .find | .substring | .contains | .notContains
  | .patternSearch | .patternExtract | .patternReplace | .notAny | .cumulativeSum
  | .cumulativeMin | .cumulativeMax | .cumulativeMean | .extract _ | .truncate | .hash => none

end Handler

/-- A kind of handlers, of which one refuses its operation. -/
class Handlers (H : Type) where
  refusal : H
  refuses : H → Bool
  refuses_iff (handler : H) : refuses handler ↔ handler = refusal

instance : Handlers Handler where
  refusal := .unsupported
  refuses
    | .unsupported => true
    | _ => false
  refuses_iff handler := by cases handler <;> simp

/-- The handlers of operations. -/
structure Registry (H : Type) where
  get? : Operation → Option H

namespace Registry

variable {H : Type}

/-- The generic handlers alone. -/
def generic : Registry Handler :=
  ⟨Handler.generic?⟩

/-- The registry with a handler for an operation, over the one that it had. -/
def insert (r : Registry H) (op : Operation) (handler : H) : Registry H :=
  ⟨fun o => if o = op then some handler else r.get? o⟩

/-- The handlers of a first registry, replaced by entries one after the other, and then by refusal
of the unsupported operations. -/
def build [Handlers H] (first : Registry H) (entries : List (Operation × H))
    (unsupported : List Operation) : Registry H :=
  let replaced := entries.foldl (fun r entry => r.insert entry.1 entry.2) first
  unsupported.foldl (fun r op => r.insert op Handlers.refusal) replaced

/-- Whether an operation has a handler that does not refuse it. -/
def supports [Handlers H] (r : Registry H) (op : Operation) : Bool :=
  (r.get? op).any fun handler => !Handlers.refuses handler

/-- The operations that are refused, in the order of listings. -/
def unsupported [Handlers H] (r : Registry H) : List Operation :=
  Operation.all.filter fun op => (r.get? op).any Handlers.refuses

/-- How many operations have a handler. -/
def size (r : Registry H) : Nat :=
  Operation.all.countP fun op => (r.get? op).isSome

/-- The handler of a node's operation; an operation without one is refused. -/
def lookup (r : Registry H) (node : Node) : Except CompileError H :=
  match r.get? node.kind with
  | some handler => .ok handler
  | none => .error (.unsupportedOperation node.kind node.toScalar.shown)

/-- The handler by which a node is written: one that refuses its operation is none. -/
def handlerFor (r : Registry Handler) (node : Node) : Except CompileError Handler :=
  match r.lookup node with
  | .ok .unsupported => .error (.unsupportedOperation node.kind node.toScalar.shown)
  | found => found

/-! ## The server's registry -/

/-- What SQL Server writes differently from the generic handlers, or in a form of its own. Truth
values are bits, which aggregate functions refuse; and the average of whole numbers is whole. -/
def serverEntries : List (Operation × Handler) := [
  (.count, .reduction "count" (some .int32)),
  (.max, .reduction "max" (some .int32)),
  (.min, .reduction "min" (some .int32)),
  (.sum, .reduction "sum" (some .int32)),
  (.mean, .reduction "avg" (some .float64)),
  (.stripLeft, .unary "ltrim"),
  (.lowercase, .unary "lower"),
  (.stripRight, .unary "rtrim"),
  (.replicate, .fixed "replicate" 2),
  (.reverse, .unary "reverse"),
  (.find, .special .find),
  (.length, .unary "len"),
  (.replace, .fixed "replace" 3),
  (.strip, .unary "trim"),
  (.substring, .special .substring),
  (.uppercase, .unary "upper"),
  (.abs, .unary "abs"),
  (.acos, .unary "acos"),
  (.asin, .unary "asin"),
  (.atan2, .fixed "atn2" 2),
  (.atan, .unary "atan"),
  (.ceil, .unary "ceiling"),
  (.cos, .unary "cos"),
  (.floor, .unary "floor"),
  (.floorDivide, .special .floorDivide),
  (.power, .fixed "power" 2),
  (.sign, .unary "sign"),
  (.sin, .unary "sin"),
  (.sqrt, .unary "sqrt"),
  (.tan, .unary "tan"),
  (.now, .fixed "getdate" 0),
  (.extract .year, .special (.datePart .year)),
  (.extract .month, .special (.datePart .month)),
  (.extract .day, .special (.datePart .day)),
  (.extract .hour, .special (.datePart .hour)),
  (.extract .minute, .special (.datePart .minute)),
  (.extract .second, .special (.datePart .second)),
  (.extract .millisecond, .special (.datePart .millisecond))]

/-- What SQL Server cannot express. -/
def serverUnsupported : List Operation := [
  .notContains, .nullIf, .notAny,
  .least, .greatest,
  .round, .log2, .ln, .log10, .log, .exp, .modulus,
  .contains, .padLeft, .padRight, .capitalize, .patternSearch, .patternExtract, .patternReplace,
  .asciiCode, .like,
  .cumulativeMax, .cumulativeMin, .cumulativeMean, .cumulativeSum,
  .truncate]

/-- The registry of SQL Server. -/
def server : Registry Handler :=
  build generic serverEntries serverUnsupported

end Registry

end TransactSql
