import TransactSql.Scalar.LogicalType

/-!
# Operations

The closed set of operations that an expression can apply. Each has a name, which messages use,
and a fixed place in the order in which operations are listed.
-/

namespace TransactSql

/-- A field of a date or a time of day. -/
inductive DatePart where
  | year
  | month
  | day
  | hour
  | minute
  | second
  | millisecond
deriving DecidableEq, Repr, Inhabited

namespace DatePart

/-- The parts, from the coarsest on. -/
def all : List DatePart :=
  [year, month, day, hour, minute, second, millisecond]

/-- The keyword of a part. -/
def name : DatePart → String
  | year => "year"
  | month => "month"
  | day => "day"
  | hour => "hour"
  | minute => "minute"
  | second => "second"
  | millisecond => "millisecond"

end DatePart

/-- What an expression node computes from its operands. -/
inductive Operation where
  -- comparison
  | equals
  | notEquals
  | less
  | lessEqual
  | greater
  | greaterEqual
  | between
  | isIn
  | notIn
  -- connectives
  | and
  | or
  | not
  -- null
  | isNull
  | notNull
  | ifNull
  | nullIf
  | coalesce
  -- arithmetic
  | add
  | subtract
  | multiply
  | divide
  | floorDivide
  | modulus
  | negate
  | power
  -- mathematics
  | abs
  | acos
  | asin
  | atan
  | atan2
  | ceil
  | cos
  | floor
  | sign
  | sin
  | sqrt
  | tan
  | round
  | log2
  | ln
  | log10
  | log
  | exp
  -- strings
  | lowercase
  | uppercase
  | stripLeft
  | stripRight
  | strip
  | replicate
  | reverse
  | find
  | length
  | replace
  | concat
  | substring
  | contains
  | notContains
  | padLeft
  | padRight
  | capitalize
  | patternSearch
  | patternExtract
  | patternReplace
  | asciiCode
  | like
  -- reductions
  | count
  | sum
  | min
  | max
  | mean
  | notAny
  -- running reductions
  | cumulativeSum
  | cumulativeMin
  | cumulativeMax
  | cumulativeMean
  -- dates and times
  | now
  | extract (part : DatePart)
  | truncate
  -- choices
  | least
  | greatest
  | choose
  -- others
  | cast
  | hash
deriving DecidableEq, Repr, Inhabited

namespace Operation

/-- Every operation once, in the order of listings. -/
def all : List Operation :=
  [.equals, .notEquals, .less, .lessEqual, .greater, .greaterEqual, .between, .isIn, .notIn,
    .and, .or, .not, .isNull, .notNull, .ifNull, .nullIf, .coalesce, .add, .subtract, .multiply,
    .divide, .floorDivide, .modulus, .negate, .power, .abs, .acos, .asin, .atan, .atan2, .ceil,
    .cos, .floor, .sign, .sin, .sqrt, .tan, .round, .log2, .ln, .log10, .log, .exp, .lowercase,
    .uppercase, .stripLeft, .stripRight, .strip, .replicate, .reverse, .find, .length, .replace,
    .concat, .substring, .contains, .notContains, .padLeft, .padRight, .capitalize,
    .patternSearch, .patternExtract, .patternReplace, .asciiCode, .like, .count, .sum, .min,
    .max, .mean, .notAny, .cumulativeSum, .cumulativeMin, .cumulativeMax, .cumulativeMean, .now,
    .extract .year, .extract .month, .extract .day, .extract .hour, .extract .minute,
    .extract .second, .extract .millisecond, .truncate, .least, .greatest, .choose, .cast, .hash]

theorem mem_all (op : Operation) : op ∈ all := by
  cases op with
  | extract part => cases part <;> decide
  | _ => decide

theorem nodup_all : all.Nodup := by
  decide

/-- The name of an operation in messages. -/
def name : Operation → String
  | equals => "equals"
  | notEquals => "not_equals"
  | less => "less"
  | lessEqual => "less_equal"
  | greater => "greater"
  | greaterEqual => "greater_equal"
  | between => "between"
  | isIn => "is_in"
  | notIn => "not_in"
  | and => "and"
  | or => "or"
  | not => "not"
  | isNull => "is_null"
  | notNull => "not_null"
  | ifNull => "if_null"
  | nullIf => "null_if"
  | coalesce => "coalesce"
  | add => "add"
  | subtract => "subtract"
  | multiply => "multiply"
  | divide => "divide"
  | floorDivide => "floor_divide"
  | modulus => "modulus"
  | negate => "negate"
  | power => "power"
  | abs => "abs"
  | acos => "acos"
  | asin => "asin"
  | atan => "atan"
  | atan2 => "atan2"
  | ceil => "ceil"
  | cos => "cos"
  | floor => "floor"
  | sign => "sign"
  | sin => "sin"
  | sqrt => "sqrt"
  | tan => "tan"
  | round => "round"
  | log2 => "log2"
  | ln => "ln"
  | log10 => "log10"
  | log => "log"
  | exp => "exp"
  | lowercase => "lowercase"
  | uppercase => "uppercase"
  | stripLeft => "lstrip"
  | stripRight => "rstrip"
  | strip => "strip"
  | replicate => "repeat"
  | reverse => "reverse"
  | find => "string_find"
  | length => "string_length"
  | replace => "string_replace"
  | concat => "string_concat"
  | substring => "substring"
  | contains => "contains"
  | notContains => "not_contains"
  | padLeft => "lpad"
  | padRight => "rpad"
  | capitalize => "capitalize"
  | patternSearch => "regex_search"
  | patternExtract => "regex_extract"
  | patternReplace => "regex_replace"
  | asciiCode => "string_ascii"
  | like => "string_sql_like"
  | count => "count"
  | sum => "sum"
  | min => "min"
  | max => "max"
  | mean => "mean"
  | notAny => "not_any"
  | cumulativeSum => "cumulative_sum"
  | cumulativeMin => "cumulative_min"
  | cumulativeMax => "cumulative_max"
  | cumulativeMean => "cumulative_mean"
  | now => "timestamp_now"
  | extract part => "extract_" ++ part.name
  | truncate => "timestamp_truncate"
  | least => "least"
  | greatest => "greatest"
  | choose => "if_else"
  | cast => "cast"
  | hash => "hash"

/-- The name under which an operation is stored. It parts the letter for the side from the word
where the name in messages does not. -/
def tag : Operation → String
  | stripLeft => "l_strip"
  | stripRight => "r_strip"
  | padLeft => "l_pad"
  | padRight => "r_pad"
  | op => op.name

/-- The operation of a name. -/
def ofName? (name : String) : Option Operation :=
  all.find? (·.name == name)

/-- The operation of a stored name. -/
def ofTag? (tag : String) : Option Operation :=
  all.find? (·.tag == tag)

/-- The place of an operation in the order of listings. -/
def index (op : Operation) : Nat :=
  all.idxOf op

/-- Whether an operation yields a truth value. A truth value can stand in a condition only, and
is no value that can be selected. -/
def isPredicate : Operation → Bool
  | equals | notEquals | less | lessEqual | greater | greaterEqual | between | isIn | notIn
  | and | or | not | isNull | notNull | contains | notContains | patternSearch | like
  | notAny => true
  | _ => false

/-- Whether an operation makes one value of many rows. -/
def isReduction : Operation → Bool
  | count | sum | min | max | mean | notAny => true
  | _ => false

/-- How the type of a result follows from the operands. -/
inductive ResultType where
  /-- The same type for all operands. -/
  | fixed (type : LogicalType)
  /-- The type of the operand at a position. -/
  | ofOperand (position : Nat)

/-- The type of an operation's result. -/
def resultType (op : Operation) : ResultType :=
  if op.isPredicate then .fixed .boolean
  else
    match op with
    | count | floorDivide | hash => .fixed .int64
    | mean | cumulativeMean | divide | sqrt | acos | asin | atan | atan2 | cos | sin | tan | ln
    | log | log2 | log10 | exp | power => .fixed .float64
    | extract _ => .fixed .int16
    | find | length | asciiCode => .fixed .int32
    | lowercase | uppercase | stripLeft | stripRight | strip | replicate | reverse | replace
    | concat | substring | padLeft | padRight | capitalize | patternExtract
    | patternReplace => .fixed .string
    | now => .fixed .timestamp
    | choose => .ofOperand 1
    | _ => .ofOperand 0

end Operation

end TransactSql
