import TransactSql.Decimal.Binary64

/-!
# TOML documents

The values of a configuration file. A table remembers how it came about, because that decides
what the rest of the document may add to it: a table is defined once, by a header, by dotted keys
or between braces.
-/

namespace TransactSql

/-- How a table came about. -/
inductive Toml.Origin where
  /-- By a header of its own. -/
  | header
  /-- By the header of a table inside it. -/
  | implied
  /-- By a dotted key. -/
  | dotted
  /-- Between braces. -/
  | inline
deriving DecidableEq, Repr, Inhabited

/-- A value of a document. -/
inductive Toml where
  | string (s : String)
  | integer (n : Int)
  | float (x : Binary64)
  | bool (b : Bool)
  /-- A date, a time of day or both, as it is written. -/
  | moment (text : String)
  | array (items : List Toml)
  /-- The tables whose headers stand in double brackets. -/
  | tables (items : List Toml)
  | table (origin : Toml.Origin) (members : List (String × Toml))
deriving Repr, Inhabited

namespace Toml

/-- The members of a table, in the order in which they were defined. -/
abbrev Members := List (String × Toml)

/-- Puts a value in the place of the one under a name. -/
def replace (name : String) (value : Toml) : Members → Members
  | [] => []
  | member :: rest =>
    if member.1 = name then (name, value) :: rest else member :: replace name value rest

/-- Changes the table at the end of a path, and makes the tables on the way that are missing. A
path leads into the last of several tables with one header, never into a table between braces,
and a dotted path into no table that has a header of its own. -/
def change (dotted : Bool) (f : Origin → Members → Option Members) :
    List String → Origin → Members → Option Members
  | [], origin, members => f origin members
  | name :: path, _, members =>
    match members.lookup name with
    | none =>
      let origin : Origin := if dotted then .dotted else .implied
      (change dotted f path origin []).map fun inner => members ++ [(name, .table origin inner)]
    | some (.table origin inner) =>
      if origin = .inline || (dotted && origin = .header) then none
      else
        (change dotted f path origin inner).map fun inner =>
          replace name (.table origin inner) members
    | some (.tables items) =>
      match items.getLast? with
      | some (.table origin inner) =>
        (change dotted f path origin inner).map fun inner =>
          replace name (.tables (items.dropLast ++ [.table origin inner])) members
      | _ => none
    | some _ => none

/-- Defines a value under a key whose last part is `name`. A dotted key adds to tables of dotted
keys only. -/
def define (path : List String) (name : String) (value : Toml) (origin : Origin)
    (members : Members) : Option Members :=
  change true
    (fun origin members =>
      if (origin == .dotted) == path.isEmpty || (members.lookup name).isSome then none
      else some (members ++ [(name, value)]))
    path origin members

/-- Opens the table of a header. One that other headers implied may still get its own. -/
def openTable (path : List String) (name : String) (members : Members) : Option Members :=
  change false
    (fun _ members =>
      match members.lookup name with
      | none => some (members ++ [(name, .table .header [])])
      | some (.table .implied inner) => some (replace name (.table .header inner) members)
      | some _ => none)
    path .header members

/-- Opens one more table of a header in double brackets. -/
def openNext (path : List String) (name : String) (members : Members) : Option Members :=
  change false
    (fun _ members =>
      match members.lookup name with
      | none => some (members ++ [(name, .tables [.table .header []])])
      | some (.tables items) =>
        some (replace name (.tables (items ++ [.table .header []])) members)
      | some _ => none)
    path .header members

end Toml

end TransactSql
