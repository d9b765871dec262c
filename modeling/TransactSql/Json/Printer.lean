import TransactSql.Decimal.Layout
import TransactSql.Json.Basic

/-!
# Text of JSON values

JSON is written without blanks, members in the order in which they stand. In a string only the
quote, the backslash and the control characters below the blank are escaped.
-/

namespace TransactSql.Json

/-- Numbers are plain while the first digit's exponent is from -5 to 15, keep a fraction, and
write a positive exponent with its sign. -/
def floatLayout : Decimal.Layout where
  plain e := -5 ≤ e && e < 16
  keepPoint := true
  plusSign := true

/-- One character of a string. -/
def escapedChar (c : Char) : String :=
  match c with
  | '"' => "\\\""
  | '\\' => "\\\\"
  | '\n' => "\\n"
  | '\r' => "\\r"
  | '\t' => "\\t"
  | '\x08' => "\\b"
  | '\x0c' => "\\f"
  | c =>
    if c.toNat < 0x20 then
      "\\u00" ++ (if c.toNat < 0x10 then "0" else "") ++ String.ofList (Nat.toDigits 16 c.toNat)
    else c.toString

/-- A string in quotes. -/
def stringText (s : String) : String :=
  "\"" ++ String.join (s.toList.map escapedChar) ++ "\""

/-- A number; what is not finite has no number and is null. -/
def Number.text : Number → String
  | .whole n => toString n
  | .float x => if x.isFinite then floatLayout.render x else "null"

mutual

/-- A value as text. -/
def text : Json → String
  | .null => "null"
  | .bool true => "true"
  | .bool false => "false"
  | .number n => n.text
  | .string s => stringText s
  | .array items => "[" ++ String.intercalate "," (itemTexts items) ++ "]"
  | .object members => "\x7b" ++ String.intercalate "," (memberTexts members) ++ "\x7d"

/-- The items of an array, each as text. -/
def itemTexts : List Json → List String
  | [] => []
  | item :: rest => text item :: itemTexts rest

/-- The members of an object, each as text. -/
def memberTexts : List (String × Json) → List String
  | [] => []
  | (name, value) :: rest => (stringText name ++ ":" ++ text value) :: memberTexts rest

end

end TransactSql.Json
