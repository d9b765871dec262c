import TransactSql.Document.Value
import TransactSql.Relation.Basic
import TransactSql.Scalar.Stored

/-!
# Expressions in documents

An expression is a value, a literal with a type, a column, a parameter, a node with its operation,
or the application of a named function to arguments. Columns are named by the key of their table.
-/

namespace TransactSql

/-- The tables that columns and relations refer to, each under its key. -/
abbrev Tables := List (String × Table)

/-- Reads a column with its type. -/
def Table.columnOfJson? : Json → Option (String × LogicalType)
  | .array [.string name, type] => (LogicalType.ofJson? type).map (name, ·)
  | _ => none

/-- Reads a table. -/
def Table.ofJson? (value : Json) : Option Table := do
  let name ← value.field "name" Json.string?
  let schema ← value.filled? "schema" Json.string?
  let columns ← value.field "cols" (Json.listOf? Table.columnOfJson?)
  return ⟨⟨schema, name⟩, columns⟩

namespace Scalar

/-- The operations of functions that have another name than their operation. -/
def functionOperations : List (String × Operation) := [
  ("eq", .equals), ("ne", .notEquals), ("lt", .less), ("le", .lessEqual), ("gt", .greater),
  ("ge", .greaterEqual), ("isin", .isIn), ("notin", .notIn), ("nullif", .nullIf),
  ("sub", .subtract), ("mul", .multiply), ("div", .divide), ("rem", .modulus), ("neg", .negate),
  ("floor_div", .floorDivide), ("pow", .power), ("lower", .lowercase), ("upper", .uppercase),
  ("length", .length), ("ascii", .asciiCode), ("find", .find), ("find_from", .find),
  ("replace", .replace), ("concat", .concat), ("substr", .substring), ("substr_len", .substring),
  ("re_search", .patternSearch), ("re_extract", .patternExtract),
  ("re_replace", .patternReplace), ("like", .like), ("notany", .notAny),
  ("cumsum", .cumulativeSum), ("cummin", .cumulativeMin), ("cummax", .cumulativeMax),
  ("cummean", .cumulativeMean), ("now", .now), ("year", .extract .year),
  ("month", .extract .month), ("day", .extract .day), ("hour", .extract .hour),
  ("minute", .extract .minute), ("second", .extract .second),
  ("millisecond", .extract .millisecond)]

/-- The operation of a function. -/
def functionOperation? (name : String) : Option Operation :=
  (functionOperations.lookup name).or (Operation.ofName? name)

/-- Reads an expression with at most `depth` levels of arrays and objects. -/
def ofJsonWithin? (tables : Tables) : Nat → Json → Option Scalar
  | 0, value => (Value.ofJson? value).map .ofValue
  | depth + 1, value =>
    let read := ofJsonWithin? tables depth
    if value.has "lit" then do
      let v ← value.field "lit" Value.ofJson?
      return .literal v (← value.filled? "ty" LogicalType.ofJson?)
    else if value.has "col" then do
      let table ← tables.lookup (← value.field "of" Json.string?)
      return table.column (← value.field "col" Json.string?)
    else if value.has "rawcol" then do
      let table ← value.field "table" Json.string?
      return .column (.parse table) (← value.field "rawcol" Json.string?)
        (← value.filled? "ty" LogicalType.ofJson?)
    else if value.has "param" then do
      return .param (← value.field "param" Json.string?) (← value.field "ty" LogicalType.ofJson?)
    else if value.has "op" then do
      let op ← Operation.ofName? (← value.field "op" Json.string?)
      let args ← value.filled? "args" (Json.listOf? read)
      let type ← value.filled? "ty" LogicalType.ofJson?
      return .op op (args.getD []) type (← value.field? "filter" read)
    else if value.has "m" then do
      match ← value.field "m" Json.string?, ← value.field "args" (Json.listOf? some) with
      | "truncate", [x, .string unit] => return (← read x).truncate unit
      | "cast", [x] => return (← read x).cast (← value.field "ty" LogicalType.ofJson?)
      | "filter", [x, condition] => return (← read x).onlyWhere (← read condition)
      | name, args => return .apply (← functionOperation? name) (← args.mapM read)
    else (Value.ofJson? value).map .ofValue

/-- Reads an expression. -/
def ofJson? (tables : Tables) (value : Json) : Option Scalar :=
  ofJsonWithin? tables value.depth value

end Scalar

end TransactSql
