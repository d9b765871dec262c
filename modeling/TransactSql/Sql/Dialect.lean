import TransactSql.Decimal.Layout
import TransactSql.Sql.Token
import TransactSql.Text.Quoted
import TransactSql.Text.UpperCase

/-!
# Dialects

A dialect fixes the text of tokens that databases write differently, and the tokens of the
clause that cuts a result into pages. What standard SQL leaves to no dialect is the default.
-/

namespace TransactSql.Sql

/-- Numbers are plain while the first digit's exponent is from -5 to 15, and always show that
they are no whole numbers. -/
def floatLayout : Decimal.Layout where
  plain e := -5 ≤ e && e < 16
  keepPoint := true
  plusSign := false

/-- A number with a fraction; one that is not finite has no literal and is only shown. -/
def floatText (x : Binary64) : String :=
  if x.isFinite then floatLayout.render x else Decimal.shown x

/-- A count of rows, written as the signed number with the same bits. -/
def rowCount (n : UInt64) : Token :=
  .int n.toInt64

/-- `LIMIT n OFFSET m`, either part where it is given. -/
def limitOffset (limit offset : Option UInt64) : List Token :=
  let limited :=
    match limit with
    | some n => [.raw "LIMIT", .space, rowCount n]
    | none => []
  let skipped :=
    match offset with
    | some m => [.keyword .OFFSET, .space, rowCount m]
    | none => []
  let between := if limit.isSome && offset.isSome then [.space] else []
  limited ++ between ++ skipped

/-- `OFFSET m ROWS`, with `FETCH NEXT n ROWS ONLY` where a limit is given. -/
def offsetFetch (limit offset : Option UInt64) : List Token :=
  let fetched :=
    match limit with
    | some n =>
      [.space, .keyword .FETCH, .space, .keyword .NEXT, .space, rowCount n, .space,
        .keyword .ROWS, .space, .keyword .ONLY]
    | none => []
  [.keyword .OFFSET, .space, rowCount (offset.getD 0), .space, .keyword .ROWS] ++ fetched

/-- How statements are written for one database. -/
structure Dialect where
  /-- The name of the dialect. -/
  name : String
  /-- A quoted identifier. -/
  identifier : String → String
  /-- A truth value. -/
  boolean : Bool → String
  /-- A quoted string. -/
  string : String → String := Text.enclose '\'' '\''
  /-- A date, given by its text. -/
  date : String → String := fun text => "DATE '" ++ text ++ "'"
  /-- A named parameter. -/
  param : String → String := fun name => ":" ++ name
  /-- The literal null. -/
  null : String := "NULL"
  /-- A number with a fraction. -/
  float : Binary64 → String := floatText
  /-- The operator that joins strings. -/
  concat : String := "||"
  /-- The clause for a limit and an offset. -/
  paging : Option UInt64 → Option UInt64 → List Token := limitOffset
  /-- Whether that clause needs rows in an order. -/
  pagingNeedsOrder : Bool := false
  /-- Whether a condition can stand where a value is expected. -/
  hasBooleanValues : Bool := true
  /-- Whether the place of nulls in an order can be chosen. -/
  hasNullsOrdering : Bool := true

namespace Dialect

/-- Standard SQL. -/
def ansi : Dialect where
  name := "ansi"
  identifier := Text.enclose '"' '"'
  boolean b := if b then "TRUE" else "FALSE"

/-- A string in Transact-SQL: one with characters beyond ASCII is marked as national. -/
def nationalString (s : String) : String :=
  let quoted := Text.enclose '\'' '\'' s
  if s.toList.all (·.toNat < 128) then quoted else "N" ++ quoted

/-- Transact-SQL: identifiers in brackets, bits for truth values, dates as strings, parameters
after an at sign, and pages by offset and fetch, which need an order. -/
def tsql : Dialect where
  name := "tsql"
  identifier := Text.enclose '[' ']'
  boolean b := if b then "1" else "0"
  string := nationalString
  date text := "'" ++ text ++ "'"
  param name := "@" ++ name
  concat := "+"
  paging := offsetFetch
  pagingNeedsOrder := true
  hasBooleanValues := false
  hasNullsOrdering := false

end Dialect

/-- The text of a token. -/
def Token.text (d : Dialect) : Token → String
  | keyword k => k.text
  | comma => ","
  | dot => "."
  | star => "*"
  | leftParen => "("
  | rightParen => ")"
  | eq => "="
  | ne => "<>"
  | lt => "<"
  | gt => ">"
  | le => "<="
  | ge => ">="
  | plus => "+"
  | minus => "-"
  | times => "*"
  | divide => "/"
  | modulo => "%"
  | concat => d.concat
  | space => " "
  | newline => "\n"
  | indent levels => String.ofList (List.replicate (2 * levels) ' ')
  | identifier name => d.identifier name
  | qualified none name => d.identifier name
  | qualified (some schema) name => d.identifier schema ++ "." ++ d.identifier name
  | int n => toString n.toInt
  | float x => d.float x
  | string s => d.string s
  | bool b => d.boolean b
  | date text => d.date text
  | null => d.null
  | param name => d.param name
  | typeName name => name
  | functionName name => Text.upper name
  | raw text => text

/-- The text of tokens, one after the other. -/
def render (d : Dialect) (tokens : List Token) : String :=
  String.join (tokens.map (Token.text d))

end TransactSql.Sql
