import TransactSql.Sql.Dialect

/-!
# SQL expressions

The expressions of a statement and their tokens. Parentheses are part of an expression: writing
adds none, so whoever builds an expression puts them where precedence needs them.
-/

namespace TransactSql.Sql

/-- A literal. -/
inductive Literal where
  | int (n : Int64)
  | float (x : Binary64)
  | string (s : String)
  | bool (b : Bool)
  /-- A date by its text. -/
  | date (text : String)
  | null
deriving DecidableEq, Repr, Inhabited

/-- An operator between two operands. -/
inductive BinaryOp where
  | eq | ne | lt | gt | le | ge
  | and | or
  | plus | minus | times | divide | modulo
  | concat | like
deriving DecidableEq, Repr, Inhabited

/-- An operator before one operand. -/
inductive UnaryOp where
  | not | minus
deriving DecidableEq, Repr, Inhabited

/-- An expression of a statement. -/
inductive Expr where
  /-- A column, with the table or alias that it belongs to. -/
  | column (table : Option String) (name : String)
  | literal (value : Literal)
  | param (name : String)
  | binary (left : Expr) (op : BinaryOp) (right : Expr)
  | unary (op : UnaryOp) (operand : Expr)
  /-- A call of a function, over distinct values where `distinct` says so. -/
  | call (function : String) (args : List Expr) (distinct : Bool)
  /-- `CASE`, with or without a value that the branches are compared with. -/
  | case (operand : Option Expr) (branches : List (Expr × Expr)) (otherwise : Option Expr)
  | cast (operand : Expr) (type : String)
  | isIn (operand : Expr) (values : List Expr) (negated : Bool)
  | isNull (operand : Expr) (negated : Bool)
  /-- All columns, of one table where it is given. -/
  | star (table : Option String)
  | paren (inner : Expr)
  /-- A keyword that stands where an expression does. -/
  | raw (text : String)
deriving Inhabited

/-- The token of a literal. -/
def Literal.token : Literal → Token
  | int n => .int n
  | float x => .float x
  | string s => .string s
  | bool b => .bool b
  | date text => .date text
  | null => .null

/-- The token of an operator. -/
def BinaryOp.token : BinaryOp → Token
  | eq => .eq
  | ne => .ne
  | lt => .lt
  | gt => .gt
  | le => .le
  | ge => .ge
  | and => .keyword .AND
  | or => .keyword .OR
  | plus => .plus
  | minus => .minus
  | times => .times
  | divide => .divide
  | modulo => .modulo
  | concat => .concat
  | like => .keyword .LIKE

/-- An operator as a term: the name of the constructor in listings. -/
def BinaryOp.term : BinaryOp → String
  | eq => "Eq"
  | ne => "Ne"
  | lt => "Lt"
  | gt => "Gt"
  | le => "Lte"
  | ge => "Gte"
  | and => "And"
  | or => "Or"
  | plus => "Plus"
  | minus => "Minus"
  | times => "Mul"
  | divide => "Div"
  | modulo => "Mod"
  | concat => "Concat"
  | like => "Like"

/-- Lists of tokens with a comma and a blank between them. -/
def commaSeparated (lists : List (List Token)) : List Token :=
  List.intercalate [.comma, .space] lists

/-- The qualifier of a column or of a star. -/
def qualifier : Option String → List Token
  | some table => [.identifier table, .dot]
  | none => []

namespace Expr

/-! ## Building -/

/-- A whole number. -/
def int (n : Int64) : Expr :=
  literal (.int n)

/-- The literal null. -/
def null : Expr :=
  literal .null

/-- A function of arguments. -/
def function (name : String) (args : List Expr) : Expr :=
  call name args false

/-- `CASE WHEN condition THEN value ELSE otherwise END`. -/
def caseWhen (condition value otherwise : Expr) : Expr :=
  case none [(condition, value)] (some otherwise)

/-- The expression as an operand: operators and their operands get parentheses, all else binds
tighter than any operator. -/
def nested : Expr → Expr
  | binary left op right => paren (binary left op right)
  | unary op operand => paren (unary op operand)
  | other => other

/-! ## Tokens -/

mutual

/-- The tokens of an expression. An empty list of values contains nothing, so membership in it
is written as a condition that never holds, and its negation as one that always does. -/
def tokens : Expr → List Token
  | column table name => qualifier table ++ [.identifier name]
  | literal value => [value.token]
  | param name => [.param name]
  | binary left op right =>
    left.tokens ++ [.space, op.token, .space] ++ right.tokens
  | unary .not operand => [.keyword .NOT, .space] ++ operand.tokens
  | unary .minus operand => .minus :: operand.tokens
  | call function args distinct =>
    [.functionName function, .leftParen]
      ++ (if distinct then [.keyword .DISTINCT, .space] else [])
      ++ commaSeparated (tokensOfList args) ++ [.rightParen]
  | case operand branches otherwise =>
    .keyword .CASE :: tokensAfter [.space] operand ++ tokensOfBranches branches
      ++ tokensAfter [.space, .keyword .ELSE, .space] otherwise ++ [.space, .keyword .END]
  | cast operand type =>
    [.keyword .CAST, .leftParen] ++ operand.tokens
      ++ [.space, .keyword .AS, .space, .typeName type, .rightParen]
  | isIn _ [] negated => [.int 1, .space, if negated then .eq else .ne, .space, .int 1]
  | isIn operand (value :: values) negated =>
    operand.tokens ++ (if negated then [.space, .keyword .NOT] else [])
      ++ [.space, .keyword .IN, .space, .leftParen]
      ++ commaSeparated (value.tokens :: tokensOfList values) ++ [.rightParen]
  | isNull operand negated =>
    operand.tokens ++ [.space, .keyword (if negated then .IS_NOT_NULL else .IS_NULL)]
  | star table => qualifier table ++ [.star]
  | paren inner => .leftParen :: inner.tokens ++ [.rightParen]
  | raw text => [.raw text]

/-- The tokens of each expression of a list. -/
def tokensOfList : List Expr → List (List Token)
  | [] => []
  | e :: rest => e.tokens :: tokensOfList rest

/-- The tokens of an expression that may be absent, after a lead that goes with it. -/
def tokensAfter (lead : List Token) : Option Expr → List Token
  | none => []
  | some e => lead ++ e.tokens

/-- The tokens of the branches of a `CASE`. -/
def tokensOfBranches : List (Expr × Expr) → List Token
  | [] => []
  | (condition, value) :: rest =>
    [.space, .keyword .WHEN, .space] ++ condition.tokens
      ++ [.space, .keyword .THEN, .space] ++ value.tokens ++ tokensOfBranches rest

end

/-- The text of an expression. -/
def sql (d : Dialect) (e : Expr) : String :=
  render d e.tokens

end Expr

end TransactSql.Sql
