import TransactSql.Scalar.Operation
import TransactSql.Json.Basic

/-!
# Stored forms of types and operations

Types and operations are stored as JSON: what has no parameters by its name, all else as an
object whose one member is named like it. A name with null for its parameters is read as well.
-/

namespace TransactSql

/-- A whole number of eight bits. -/
def Json.asUInt8? : Json → Option UInt8
  | .number (.whole n) => if 0 ≤ n && n ≤ 255 then some (UInt8.ofNat n.toNat) else none
  | _ => none

namespace LogicalType

/-- The stored form of a type. -/
def toJson : LogicalType → Json
  | decimal precision scale =>
    .object [("decimal", .object
      [("precision", .ofNat precision.toNat), ("scale", .ofNat scale.toNat)])]
  | array element => .object [("array", element.toJson)]
  | other => .string other.shown

mutual

/-- The type of a stored form. -/
def ofJson? : Json → Option LogicalType
  | .string name => ofName? name
  | .object members => ofMembers? members
  | _ => none

/-- The type of an object. It has one member; a decimal may have members that mean nothing. -/
def ofMembers? : List (String × Json) → Option LogicalType
  | [(name, parameters)] =>
    if name = "array" then (ofJson? parameters).map array
    else if name = "decimal" then
      match parameters with
      | .object members => do
        let precision ← (Json.memberOf? members "precision").bind Json.asUInt8?
        let scale ← (Json.memberOf? members "scale").bind Json.asUInt8?
        return decimal precision scale
      | _ => none
    else
      match parameters with
      | .null => ofName? name
      | _ => none
  | _ => none

end

end LogicalType

/-- The operation of a stored form. -/
def Operation.ofJson? : Json → Option Operation
  | .string tag => ofTag? tag
  | .object [(tag, .null)] => ofTag? tag
  | _ => none

end TransactSql
