import TransactSql.Scalar.Build

/-!
# Relations

A relation is a table, or a selection, an aggregation or a join of relations. What a selection
or an aggregation does to its source is a record of its own, so that a relation is a plain tree.
-/

namespace TransactSql

/-- A table of the database with its columns. -/
structure Table where
  name : TableName
  columns : List (String × LogicalType)
deriving DecidableEq, Repr, Inhabited

namespace Table

/-- The type of a column; of columns with one name the first counts. -/
def columnType? (t : Table) (name : String) : Option LogicalType :=
  t.columns.lookup name

/-- A column of the table, without a type when the table has no such column. -/
def column (t : Table) (name : String) : Scalar :=
  .column t.name name (t.columnType? name)

end Table

/-- An expression with the name of the column that it becomes. -/
structure Named where
  name : String
  expr : Scalar
deriving Inhabited

/-- A key by which rows are sorted. -/
structure SortKey where
  expr : Scalar
  descending : Bool
deriving Inhabited

/-- How many rows are kept, and how many are skipped before them. -/
structure Limit where
  count : UInt64
  offset : UInt64
deriving DecidableEq, Repr, Inhabited

/-- Which unmatched rows a join keeps. -/
inductive JoinKind where
  | inner | left | right | outer
deriving DecidableEq, Repr, Inhabited

/-- What a selection does to the rows of its source. Without projections it keeps all columns. -/
structure Selection where
  projections : List Named := []
  predicates : List Scalar := []
  sortKeys : List SortKey := []
  limit : Option Limit := none
deriving Inhabited

/-- What an aggregation does to the rows of its source: `predicates` restrict rows before they
are grouped, `having` restricts groups. -/
structure Aggregation where
  keys : List Named := []
  metrics : List Named := []
  predicates : List Scalar := []
  having : List Scalar := []
  sortKeys : List SortKey := []
  limit : Option Limit := none
deriving Inhabited

/-- An expression that has rows. -/
inductive Relation where
  | table (table : Table)
  | selection (source : Relation) (parts : Selection)
  | aggregation (source : Relation) (parts : Aggregation)
  | join (left right : Relation) (kind : JoinKind) (predicates : List Scalar)
deriving Inhabited

end TransactSql
