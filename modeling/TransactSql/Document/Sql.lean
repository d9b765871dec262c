import TransactSql.Document.Value
import TransactSql.Sql.Select

/-!
# SQL in documents

Expressions, tokens and statements of SQL as they are, without a query that they come from.
-/

namespace TransactSql.Sql

/-- The names of binary operators. -/
def BinaryOp.names : List (String × BinaryOp) := [
  ("eq", .eq), ("ne", .ne), ("lt", .lt), ("gt", .gt), ("lte", .le), ("gte", .ge), ("and", .and),
  ("or", .or), ("plus", .plus), ("minus", .minus), ("mul", .times), ("div", .divide),
  ("mod", .modulo), ("concat", .concat), ("like", .like)]

/-- The operator of a name. -/
def BinaryOp.ofName? (name : String) : Option BinaryOp :=
  names.lookup name

namespace Expr

/-- Reads a flag that is off when it is left out. -/
def flag? (value : Json) (name : String) : Option Bool :=
  (value.filled? name Json.bool?).map (·.getD false)

/-- Reads the two parts of a branch. -/
def branch? (read : Json → Option Expr) : Json → Option (Expr × Expr)
  | .array [condition, result] => do return (← read condition, ← read result)
  | _ => none

/-- Reads an expression with at most `depth` levels of arrays and objects. -/
def ofJsonWithin? : Nat → Json → Option Expr
  | 0, value => atom? value
  | depth + 1, value => do
    let read := ofJsonWithin? depth
    if value.has "f" then return .literal (.float (← value.field "f" Binary64.ofJson?))
    else if value.has "date" then return .literal (.date (← value.field "date" Json.string?))
    else if value.has "col" then
      return .column (← value.filled? "table" Json.string?) (← value.field "col" Json.string?)
    else if value.has "param" then return .param (← value.field "param" Json.string?)
    else if value.has "bin" || value.has "ext" then
      match (value.member? "bin").or (value.member? "ext") with
      | some (.array [x, .string op, y]) =>
        return .binary (← read x) (← BinaryOp.ofName? op) (← read y)
      | _ => none
    else if value.has "un" then
      match value.member? "un" with
      | some (.array [.string "not", x]) => return .unary .not (← read x)
      | some (.array [.string "minus", x]) => return .unary .minus (← read x)
      | _ => none
    else if value.has "fn" then
      return .call (← value.field "fn" Json.string?)
        ((← value.filled? "args" (Json.listOf? read)).getD []) (← flag? value "distinct")
    else if value.has "case" then
      return .case (← value.field? "operand" read)
        (← value.field "case" (Json.listOf? (branch? read))) (← value.field? "else" read)
    else if value.has "case_when" then
      match ← value.field "case_when" (Json.listOf? read) with
      | [condition, result, other] => return .caseWhen condition result other
      | _ => none
    else if value.has "cast" then
      return .cast (← value.field "cast" read) (← value.field "as" Json.string?)
    else if value.has "in" then
      return .isIn (← value.field "in" read) (← value.field "values" (Json.listOf? read))
        (← flag? value "negated")
    else if value.has "is_null" then
      return .isNull (← value.field "is_null" read) (← flag? value "negated")
    else if value.has "star" then return .star (← value.filled? "table" Json.string?)
    else if value.has "paren" then return .paren (← value.field "paren" read)
    else if value.has "nested" then return (← value.field "nested" read).nested
    else if value.has "raw" then return .raw (← value.field "raw" Json.string?)
    else atom? value
where
  /-- Reads a literal that stands for itself. -/
  atom? (value : Json) : Option Expr :=
    match value with
    | .null => some .null
    | .bool b => some (.literal (.bool b))
    | .number _ => value.int64?.map .int
    | .string s => some (.literal (.string s))
    | _ => none

/-- Reads an expression. -/
def ofJson? (value : Json) : Option Expr :=
  ofJsonWithin? value.depth value

end Expr

/-! ## Tokens -/

/-- All keywords. -/
def Keyword.all : List Keyword := [
  .SELECT, .FROM, .WHERE, .AND, .OR, .NOT, .AS, .ON, .JOIN, .INNER, .LEFT, .RIGHT, .FULL,
  .OUTER, .GROUP_BY, .HAVING, .ORDER_BY, .ASC, .DESC, .OFFSET, .FETCH, .NEXT, .ROWS, .ONLY,
  .CASE, .WHEN, .THEN, .ELSE, .END, .IN, .LIKE, .IS_NULL, .IS_NOT_NULL, .DISTINCT, .NULL, .CAST]

/-- The keyword of a name, which is its text without blanks in small and capital letters. -/
def Keyword.ofName? (name : String) : Option Keyword :=
  all.find? fun k => (k.text.toList.filter (· != ' ')) == name.toList.map Char.toUpper

namespace Token

/-- The names of tokens that are neither keywords nor hold anything. -/
def names : List (String × Token) := [
  ("Comma", .comma), ("Dot", .dot), ("Star", .star), ("LParen", .leftParen),
  ("RParen", .rightParen), ("Eq", .eq), ("Ne", .ne), ("Lt", .lt), ("Gt", .gt), ("Lte", .le),
  ("Gte", .ge), ("Plus", .plus), ("Minus", .minus), ("Mul", .times), ("Div", .divide),
  ("Mod", .modulo), ("Concat", .concat), ("Space", .space), ("Newline", .newline),
  ("LitNull", .null)]

/-- Reads a token by its name, or by its name and what it holds. -/
def ofJson? : Json → Option Token
  | .string name => (names.lookup name).or ((Keyword.ofName? name).map .keyword)
  | .object [("QualifiedIdent", .array [schema, name])] => do
    let schema ← match schema with
      | .null => some none
      | schema => schema.string?.map some
    return .qualified schema (← name.string?)
  | .object [("Indent", n)] => n.uint64?.map fun n => .indent n.toNat
  | .object [("LitInt", n)] => n.int64?.map .int
  | .object [("LitFloat", bits)] => (Binary64.ofJson? bits).map .float
  | .object [("LitBool", b)] => b.bool?.map .bool
  | .object [(name, .string s)] =>
    match name with
    | "Ident" => some (.identifier s)
    | "LitString" => some (.string s)
    | "LitDate" => some (.date s)
    | "Param" => some (.param s)
    | "TypeName" => some (.typeName s)
    | "FunctionName" => some (.functionName s)
    | "Raw" => some (.raw s)
    | _ => none
  | _ => none

end Token

/-! ## Statements -/

/-- Reads a table of a statement. -/
def TableRef.ofJson? (value : Json) : Option TableRef := do
  return ⟨← value.filled? "schema" Json.string?, ← value.field "table" Json.string?,
    ← value.filled? "alias" Json.string?⟩

/-- Reads an item, which may have an alias. -/
def SelectItem.ofJson? (value : Json) : Option SelectItem :=
  match value.member? "expr" with
  | some expr => do return ⟨← Expr.ofJson? expr, ← value.filled? "as_name" Json.string?⟩
  | none => (Expr.ofJson? value).map (⟨·, none⟩)

/-- Reads a kind of join. -/
def JoinType.ofJson? : Json → Option JoinType
  | .string "inner" => some .inner
  | .string "left" => some .left
  | .string "right" => some .right
  | .string "full" => some .full
  | _ => none

/-- Reads a sort key with its direction. -/
def OrderItem.ofJson? (value : Json) : Option OrderItem :=
  match value.member? "asc" with
  | some expr => (Expr.ofJson? expr).map (⟨·, false⟩)
  | none => (value.field "desc" Expr.ofJson?).map (⟨·, true⟩)

/-- Applies a step to a statement. -/
def Select.step? (s : Select) (value : Json) : Option Select :=
  if value.has "select" then do
    return { s with items := ← value.field "select" (Json.listOf? SelectItem.ofJson?) }
  else if value.has "from" then do
    return { s with source := some (← value.field "from" TableRef.ofJson?) }
  else if value.has "join" then do
    return s.join ⟨← value.field "kind" JoinType.ofJson?, ← value.field "join" TableRef.ofJson?,
      ← value.field? "on" Expr.ofJson?⟩
  else if value.has "filter" then (value.field "filter" Expr.ofJson?).map s.restrict
  else if value.has "group_by" then do
    return { s with groupBy := ← value.field "group_by" (Json.listOf? Expr.ofJson?) }
  else if value.has "having" then (value.field "having" Expr.ofJson?).map s.restrictGroups
  else if value.has "order_by" then do
    return { s with orderBy := ← value.field "order_by" (Json.listOf? OrderItem.ofJson?) }
  else if value.has "limit" then (value.field "limit" Json.uint64?).map s.limit
  else if value.has "offset" then (value.field "offset" Json.uint64?).map s.offset
  else none

end TransactSql.Sql
