import TransactSql.Toml.Basic

/-!
# Records in TOML

A record is a table whose members have fixed names; other members mean nothing. It may also be an
array of its values in the order of the names, which ends early where the last ones are left out.
-/

namespace TransactSql.Toml

/-- The members of a record with the given names. -/
def record? (names : List String) : Toml → Option Members
  | .table _ members => some members
  | .array items | .tables items => some (names.zip items)
  | _ => none

/-- A member that may be left out. -/
def memberOr {α : Type} (members : Members) (name : String) (read : Toml → Option α)
    (default : α) : Option α :=
  match members.lookup name with
  | some value => read value
  | none => some default

/-- A text. -/
def string? : Toml → Option String
  | .string s => some s
  | _ => none

/-- A whole number of at most 32 bits. -/
def uint32? : Toml → Option UInt32
  | .integer n => if 0 ≤ n && n < UInt32.size then some (UInt32.ofNat n.toNat) else none
  | _ => none

/-- A whole number of at most 64 bits. -/
def uint64? : Toml → Option UInt64
  | .integer n => if 0 ≤ n && n < UInt64.size then some (UInt64.ofNat n.toNat) else none
  | _ => none

end TransactSql.Toml
