import TransactSql.Text.Printable

/-!
# Text shown in messages

A text in a message stands in double quotes. Quotes, backslashes and line ends inside it carry a
backslash, and every character without a visible form of its own is written by its code point.
-/

namespace TransactSql.Text

/-- A character by its code point, in the shortest lower-case hexadecimal. -/
def codePointEscape (c : Char) : String :=
  "\\u\x7b" ++ String.ofList (Nat.toDigits 16 c.toNat) ++ "\x7d"

/-- One character of a shown text. -/
def shownChar (c : Char) : String :=
  match c with
  | '"' => "\\\""
  | '\\' => "\\\\"
  | '\n' => "\\n"
  | '\r' => "\\r"
  | '\t' => "\\t"
  | '\x00' => "\\0"
  | c => if isShownPlain c then c.toString else codePointEscape c

/-- The text in double quotes, with what has no visible form escaped. -/
def shown (s : String) : String :=
  "\"" ++ String.join (s.toList.map shownChar) ++ "\""

end TransactSql.Text
