import TransactSql.Scalar.Basic

/-!
# Building expressions

Functions that put expressions together. An operation is applied by `Scalar.apply`; the functions
after it are for operations that treat their operands differently or have several forms.
-/

namespace TransactSql.Scalar

/-- A literal of its natural type. -/
def ofValue (value : Value) : Scalar :=
  literal value none

/-- The literal null. -/
def null : Scalar :=
  ofValue .null

/-- An operation on operands, without an explicit type and without a filter. -/
def apply (kind : Operation) (args : List Scalar) : Scalar :=
  op kind args none none

/-- `e >= bound`. -/
def atLeast (e bound : Scalar) : Scalar :=
  apply .greaterEqual [e, bound]

/-- `e <= bound`. -/
def atMost (e bound : Scalar) : Scalar :=
  apply .lessEqual [e, bound]

/-- Both conditions. -/
def and (e f : Scalar) : Scalar :=
  apply .and [e, f]

/-- The opposite of a condition. -/
def not (e : Scalar) : Scalar :=
  apply .not [e]

/-- The zero-based position of the first `needle` in `e`, or -1. -/
def find (e needle : Scalar) : Scalar :=
  apply .find [e, needle]

/-- The zero-based position of a `needle` in `e`, searched from `start` on, or -1. -/
def findFrom (e needle start : Scalar) : Scalar :=
  apply .find [e, needle, start]

/-- What follows the zero-based position `start` of `e`. -/
def substring (e start : Scalar) : Scalar :=
  apply .substring [e, start]

/-- The `length` characters of `e` from the zero-based position `start` on. -/
def substringOfLength (e start length : Scalar) : Scalar :=
  apply .substring [e, start, length]

/-- Whether `e` is one of the values. -/
def isIn (e : Scalar) (values : List Scalar) : Scalar :=
  apply .isIn (e :: values)

/-- Whether `e` is none of the values. -/
def notIn (e : Scalar) (values : List Scalar) : Scalar :=
  apply .notIn (e :: values)

/-- `e` converted to a type. -/
def cast (e : Scalar) (type : LogicalType) : Scalar :=
  op .cast [e] (some type) none

/-- `e` cut down to a unit of time. -/
def truncate (e : Scalar) (unit : String) : Scalar :=
  apply .truncate [e, ofValue (.string unit)]

/-- A reduction restricted to the rows where the condition holds; other expressions stay as they
are. -/
def onlyWhere (e condition : Scalar) : Scalar :=
  match e with
  | op kind args type filter =>
    op kind args type (if kind.isReduction then some condition else filter)
  | leaf => leaf

end TransactSql.Scalar
