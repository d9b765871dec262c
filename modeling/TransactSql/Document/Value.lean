import TransactSql.Json.Parser
import TransactSql.Json.Record
import TransactSql.Scalar.Value

/-!
# Values in documents

Queries can be written as JSON documents. A value is what JSON has for it; a number with a
fraction is an object with its bits, and a date or a timestamp one with its parts.
-/

namespace TransactSql

/-- A number by the 16 hexadecimal digits of its bits. -/
def Binary64.ofHex? (s : String) : Option Binary64 := do
  let digits ← s.toList.mapM Json.hexDigit?
  if digits.length = 16 then some ⟨UInt64.ofNat (digits.foldl (fun n d => n * 16 + d) 0)⟩
  else none

/-- Reads a number by its bits. -/
def Binary64.ofJson? (value : Json) : Option Binary64 :=
  value.string?.bind Binary64.ofHex?

/-- Reads a value. -/
def Value.ofJson? (value : Json) : Option Value :=
  match value with
  | .null => some .null
  | .bool b => some (.bool b)
  | .number _ => value.int64?.map .int
  | .string s => some (.string s)
  | .object [("f", bits)] => (Binary64.ofJson? bits).map .float
  | .object [("date", .array parts)] => do
    match ← parts.mapM Json.int? with
    | [y, m, d] => return .date ⟨y, m.toNat, d.toNat⟩
    | _ => none
  | .object [("ts", .array parts)] => do
    match ← parts.mapM Json.int? with
    | [y, mo, d, h, mi, s, n] =>
      return .timestamp ⟨⟨y, mo.toNat, d.toNat⟩, h.toNat, mi.toNat, s.toNat, n.toNat⟩
    | _ => none
  | _ => none

end TransactSql
