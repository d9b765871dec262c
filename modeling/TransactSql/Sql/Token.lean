import TransactSql.Decimal.Binary64

/-!
# SQL tokens

Statements are built as lists of tokens, and only a dialect turns tokens into text. Blanks and
line ends are tokens too, so a list of tokens fixes the text.
-/

namespace TransactSql.Sql

/-- The keywords of a statement. -/
inductive Keyword where
  | SELECT | FROM | WHERE | AND | OR | NOT | AS | ON | JOIN | INNER | LEFT | RIGHT | FULL | OUTER
  | GROUP_BY | HAVING | ORDER_BY | ASC | DESC | OFFSET | FETCH | NEXT | ROWS | ONLY
  | CASE | WHEN | THEN | ELSE | END | IN | LIKE | IS_NULL | IS_NOT_NULL | DISTINCT | NULL | CAST
deriving DecidableEq, Repr, Inhabited

/-- A keyword as it is written. -/
def Keyword.text : Keyword → String
  | SELECT => "SELECT"
  | FROM => "FROM"
  | WHERE => "WHERE"
  | AND => "AND"
  | OR => "OR"
  | NOT => "NOT"
  | AS => "AS"
  | ON => "ON"
  | JOIN => "JOIN"
  | INNER => "INNER"
  | LEFT => "LEFT"
  | RIGHT => "RIGHT"
  | FULL => "FULL"
  | OUTER => "OUTER"
  | GROUP_BY => "GROUP BY"
  | HAVING => "HAVING"
  | ORDER_BY => "ORDER BY"
  | ASC => "ASC"
  | DESC => "DESC"
  | OFFSET => "OFFSET"
  | FETCH => "FETCH"
  | NEXT => "NEXT"
  | ROWS => "ROWS"
  | ONLY => "ONLY"
  | CASE => "CASE"
  | WHEN => "WHEN"
  | THEN => "THEN"
  | ELSE => "ELSE"
  | END => "END"
  | IN => "IN"
  | LIKE => "LIKE"
  | IS_NULL => "IS NULL"
  | IS_NOT_NULL => "IS NOT NULL"
  | DISTINCT => "DISTINCT"
  | NULL => "NULL"
  | CAST => "CAST"

/-- The smallest piece of a statement. -/
inductive Token where
  | keyword (k : Keyword)
  | comma
  | dot
  | star
  | leftParen
  | rightParen
  | eq
  | ne
  | lt
  | gt
  | le
  | ge
  | plus
  | minus
  | times
  | divide
  | modulo
  | concat
  | space
  | newline
  /-- Two blanks per level. -/
  | indent (levels : Nat)
  /-- The name of a table, a column or an alias. -/
  | identifier (name : String)
  /-- The name of a table with its schema. -/
  | qualified (schema : Option String) (name : String)
  | int (n : Int64)
  | float (x : Binary64)
  | string (s : String)
  | bool (b : Bool)
  /-- A date by its text. -/
  | date (text : String)
  | null
  | param (name : String)
  | typeName (name : String)
  | functionName (name : String)
  /-- Text that goes into the statement as it is. -/
  | raw (text : String)
deriving DecidableEq, Repr, Inhabited

end TransactSql.Sql
