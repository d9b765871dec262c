import TransactSql.Sql.Expr

/-!
# SELECT statements

A statement with all its clauses, the steps that build it up, and its tokens.
-/

namespace TransactSql.Sql

/-- An item of the select list, with the name that its column gets. -/
structure SelectItem where
  expr : Expr
  asName : Option String := none
deriving Inhabited

/-- A table in the statement, with the alias under which columns refer to it. -/
structure TableRef where
  schema : Option String := none
  table : String
  asName : Option String := none
deriving DecidableEq, Repr, Inhabited

/-- Which unmatched rows a join keeps. -/
inductive JoinType where
  | inner | left | right | full
deriving DecidableEq, Repr, Inhabited

/-- A join with a further table. -/
structure JoinClause where
  type : JoinType
  table : TableRef
  condition : Option Expr
deriving Inhabited

/-- A key of the order. -/
structure OrderItem where
  expr : Expr
  descending : Bool
deriving Inhabited

/-- How many rows are kept and how many are skipped before them. -/
structure Paging where
  limit : Option UInt64 := none
  offset : Option UInt64 := none
deriving DecidableEq, Repr, Inhabited

/-- A `SELECT` statement. -/
structure Select where
  items : List SelectItem := []
  source : Option TableRef := none
  joins : List JoinClause := []
  condition : Option Expr := none
  groupBy : List Expr := []
  having : Option Expr := none
  orderBy : List OrderItem := []
  paging : Option Paging := none
deriving Inhabited

/-! ## Building -/

/-- Parentheses around a disjunction, which binds weaker than `AND`. -/
def Expr.conjunct : Expr → Expr
  | .binary left .or right => .paren (.binary left .or right)
  | other => other

/-- A further condition beside those that a clause has. -/
def conjoin (existing : Option Expr) (condition : Expr) : Expr :=
  match existing with
  | some e => .binary e.conjunct .and condition.conjunct
  | none => condition

namespace Select

/-- Adds a join after those that are there. -/
def join (s : Select) (clause : JoinClause) : Select :=
  { s with joins := s.joins ++ [clause] }

/-- Adds a condition on rows. -/
def restrict (s : Select) (condition : Expr) : Select :=
  { s with condition := some (conjoin s.condition condition) }

/-- Adds a condition on groups. -/
def restrictGroups (s : Select) (condition : Expr) : Select :=
  { s with having := some (conjoin s.having condition) }

/-- Sets the limit. -/
def limit (s : Select) (n : UInt64) : Select :=
  { s with paging := some { s.paging.getD {} with limit := some n } }

/-- Sets the offset. -/
def offset (s : Select) (n : UInt64) : Select :=
  { s with paging := some { s.paging.getD {} with offset := some n } }

end Select

/-! ## Tokens -/

/-- `AS` and an alias, where there is one. -/
def aliasTokens : Option String → List Token
  | some name => [.space, .keyword .AS, .space, .identifier name]
  | none => []

/-- The tokens of an item. -/
def SelectItem.tokens (item : SelectItem) : List Token :=
  item.expr.tokens ++ aliasTokens item.asName

/-- The tokens of a table. -/
def TableRef.tokens (t : TableRef) : List Token :=
  .qualified t.schema t.table :: aliasTokens t.asName

/-- The keywords of a join. -/
def JoinType.tokens : JoinType → List Token
  | inner => [.keyword .INNER]
  | left => [.keyword .LEFT, .space, .keyword .OUTER]
  | right => [.keyword .RIGHT, .space, .keyword .OUTER]
  | full => [.keyword .FULL, .space, .keyword .OUTER]

/-- The tokens of a join. Without a condition every pair of rows matches. -/
def JoinClause.tokens (j : JoinClause) : List Token :=
  j.type.tokens ++ [.space, .keyword .JOIN, .space] ++ j.table.tokens
    ++ [.space, .keyword .ON, .space]
    ++ (match j.condition with
      | some condition => condition.tokens
      | none => [.int 1, .space, .eq, .space, .int 1])

/-- The tokens of a key. -/
def OrderItem.tokens (o : OrderItem) : List Token :=
  o.expr.tokens ++ [.space, .keyword (if o.descending then .DESC else .ASC)]

/-- A clause on a line of its own: a keyword and what follows it. -/
def clause (k : Keyword) (content : List Token) : List Token :=
  [.newline, .keyword k, .space] ++ content

namespace Select

/-- The select list, one item a line. -/
def itemTokens : List SelectItem → List Token
  | [] => []
  | items =>
    [.newline, .indent 1]
      ++ List.intercalate [.comma, .newline, .indent 1] (items.map SelectItem.tokens)

/-- The order of rows. A dialect whose paging needs an order gets one that orders nothing. -/
def orderTokens (d : Dialect) (s : Select) : List Token :=
  if !s.orderBy.isEmpty then clause .ORDER_BY (commaSeparated (s.orderBy.map OrderItem.tokens))
  else if d.pagingNeedsOrder && s.paging.isSome then
    clause .ORDER_BY [.leftParen, .keyword .SELECT, .space, .keyword .NULL, .rightParen]
  else []

/-- The tokens of a statement. -/
def tokens (d : Dialect) (s : Select) : List Token :=
  .keyword .SELECT :: itemTokens s.items
    ++ (match s.source with
      | some table => clause .FROM table.tokens
      | none => [])
    ++ s.joins.flatMap (fun j => .newline :: j.tokens)
    ++ (match s.condition with
      | some condition => clause .WHERE condition.tokens
      | none => [])
    ++ (if s.groupBy.isEmpty then []
      else clause .GROUP_BY (commaSeparated (s.groupBy.map Expr.tokens)))
    ++ (match s.having with
      | some condition => clause .HAVING condition.tokens
      | none => [])
    ++ orderTokens d s
    ++ (match s.paging with
      | some page => .newline :: d.paging page.limit page.offset
      | none => [])

/-- The text of a statement. -/
def sql (d : Dialect) (s : Select) : String :=
  render d (s.tokens d)

end Select

end TransactSql.Sql
