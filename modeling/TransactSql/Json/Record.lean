import TransactSql.Json.Basic

/-!
# Records in JSON

A record is an object whose members have fixed names. A known name stands at most once, and other
members mean nothing. It may also be an array of its values in the order of the names, which ends
early where the last ones are left out.
-/

namespace TransactSql.Json

/-- Whether a name stands at most once among members. -/
def atMostOnce (members : List (String × Json)) (name : String) : Bool :=
  (members.filter (·.1 == name)).length ≤ 1

/-- The members of a record with the given names. -/
def record? (names : List String) : Json → Option (List (String × Json))
  | .object members => if names.all (atMostOnce members) then some members else none
  | .array items => if items.length ≤ names.length then some (names.zip items) else none
  | _ => none

/-- A member that must be there. -/
def required {α : Type} (members : List (String × Json)) (name : String)
    (read : Json → Option α) : Option α :=
  (members.lookup name).bind read

/-- A member that may be left out or null. -/
def optional {α : Type} (members : List (String × Json)) (name : String)
    (read : Json → Option α) : Option (Option α) :=
  match members.lookup name with
  | none | some .null => some none
  | some value => (read value).map some

/-- A text. -/
def string? : Json → Option String
  | .string s => some s
  | _ => none

/-- A truth value. -/
def bool? : Json → Option Bool
  | .bool b => some b
  | _ => none

/-- A whole number. -/
def int? : Json → Option Int
  | .number (.whole n) => some n
  | _ => none

/-- A whole number of 64 bits. -/
def uint64? (value : Json) : Option UInt64 := do
  let n ← value.int?
  if 0 ≤ n && n < UInt64.size then some (UInt64.ofNat n.toNat) else none

/-- A whole number of 64 bits with a sign. -/
def int64? (value : Json) : Option Int64 := do
  let n ← value.int?
  if Int64.minValue.toInt ≤ n && n ≤ Int64.maxValue.toInt then some (Int64.ofInt n) else none

/-- A whole number of 32 bits with a sign. -/
def int32? : Json → Option Int32
  | .number (.whole n) =>
    if Int32.minValue.toInt ≤ n && n ≤ Int32.maxValue.toInt then some (Int32.ofInt n) else none
  | _ => none

/-- The items of an array. -/
def listOf? {α : Type} (read : Json → Option α) : Json → Option (List α)
  | .array items => items.mapM read
  | _ => none

/-- The members of an object. -/
def members? : Json → Option (List (String × Json))
  | .object members => some members
  | _ => none

/-! ## Members of objects -/

/-- Whether an object has a member of a name. -/
def has (value : Json) (name : String) : Bool :=
  (value.member? name).isSome

/-- A member that must be there, read. -/
def field {α : Type} (value : Json) (name : String) (read : Json → Option α) : Option α :=
  (value.member? name).bind read

/-- A member that may be left out, where null is a value. -/
def field? {α : Type} (value : Json) (name : String) (read : Json → Option α) :
    Option (Option α) :=
  match value.member? name with
  | none => some none
  | some value => (read value).map some

/-- A member that may be left out or null. -/
def filled? {α : Type} (value : Json) (name : String) (read : Json → Option α) :
    Option (Option α) :=
  match value.member? name with
  | none | some .null => some none
  | some value => (read value).map some

end TransactSql.Json
