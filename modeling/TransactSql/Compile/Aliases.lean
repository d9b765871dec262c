import TransactSql.Compile.Error

/-!
# Aliases of tables

The tables of a statement are numbered from zero in the order in which they come, and the alias
of a table is `t` and its number. A table comes once.
-/

namespace TransactSql

/-- The tables of a statement, each once, in the order of their aliases. -/
structure Aliases where
  tables : List TableName
  distinct : tables.Nodup

namespace Aliases

/-- No table yet. -/
def empty : Aliases :=
  ⟨[], List.nodup_nil⟩

instance : Inhabited Aliases :=
  ⟨empty⟩

/-- The alias with a number. -/
def name (number : Nat) : String :=
  "t" ++ toString number

/-- All aliases, in order. -/
def names (a : Aliases) : List String :=
  (List.range a.tables.length).map name

/-- The alias that the next table gets. -/
def next (a : Aliases) : String :=
  name a.tables.length

/-- Adds a table; one that is there already is refused. -/
def register (a : Aliases) (table : TableName) : Except CompileError Aliases :=
  if h : table ∈ a.tables then .error (.invalidExpression (.repeatedTable table))
  else
    .ok ⟨a.tables ++ [table],
      List.nodup_append.2
        ⟨a.distinct, by simp, fun x hx y hy e => by simp_all⟩⟩

/-- The alias of a table. -/
def find (a : Aliases) (table : TableName) : Except CompileError String :=
  match a.tables.idxOf? table with
  | some number => .ok (name number)
  | none => .error (.unknownTable table)

end Aliases

end TransactSql
