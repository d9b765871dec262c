import TransactSql.Json.Parser

/-!
# Quoted texts in TOML

A text in double quotes has escapes, one in single quotes has none, and three quotes of either
kind hold several lines. Of the control characters only the tab may stand for itself.
-/

namespace TransactSql.Toml

/-- Whether a character must not stand for itself. -/
def isControl (c : Char) : Bool :=
  (c.toNat < 0x20 && c != '\t') || c.toNat == 0x7F

/-- Whether a character is a blank within a line. -/
def isBlank (c : Char) : Bool :=
  c == ' ' || c == '\t'

/-- The text after the end of a line. -/
def afterLineEnd? : List Char → Option (List Char)
  | '\n' :: rest => some rest
  | '\r' :: '\n' :: rest => some rest
  | _ => none

/-- The character of an escape with one letter. -/
def shortEscape? : Char → Option Char
  | 'b' => some '\x08'
  | 't' => some '\t'
  | 'n' => some '\n'
  | 'f' => some '\x0c'
  | 'r' => some '\r'
  | 'e' => some '\x1b'
  | '"' => some '"'
  | '\\' => some '\\'
  | _ => none

/-- The character whose code point hexadecimal digits write. -/
def charOf? (digits : List Char) : Option Char := do
  let values ← digits.mapM Json.hexDigit?
  let n := values.foldl (fun n d => n * 16 + d) 0
  if n < 0xD800 || (0xE000 ≤ n && n < 0x110000) then some (Char.ofNat n) else none

/-- Reads an escape after its backslash. -/
def readEscape : List Char → Option (Char × List Char)
  | 'x' :: a :: b :: rest => (charOf? [a, b]).map (·, rest)
  | 'u' :: a :: b :: c :: d :: rest => (charOf? [a, b, c, d]).map (·, rest)
  | 'U' :: a :: b :: c :: d :: e :: f :: g :: h :: rest =>
    (charOf? [a, b, c, d, e, f, g, h]).map (·, rest)
  | c :: rest => (shortEscape? c).map (·, rest)
  | [] => none

/-- Reads a text up to its closing quote; `done` holds what was read, the last first. The count
bounds the characters that are read. -/
def readBasic : Nat → List Char → List Char → Option (String × List Char)
  | 0, _, _ => none
  | _ + 1, _, [] => none
  | count + 1, done, c :: rest =>
    if c = '"' then some (String.ofList done.reverse, rest)
    else if c = '\\' then
      match readEscape rest with
      | some (c, rest) => readBasic count (c :: done) rest
      | none => none
    else if isControl c then none
    else readBasic count (c :: done) rest

/-- Reads a text without escapes up to its closing quote. -/
def readLiteral (cs : List Char) : Option (String × List Char) :=
  let text := cs.takeWhile (· != '\x27')
  match cs.dropWhile (· != '\x27') with
  | _ :: rest => if text.any isControl then none else some (String.ofList text, rest)
  | [] => none

/-- The text after three closing quotes, with the quotes right before them that belong to the
content. -/
def afterQuotes? (quote : Char) (cs : List Char) : Option (List Char × List Char) :=
  match (cs.takeWhile (· == quote)).length with
  | 0 | 1 | 2 => none
  | 3 => some ([], cs.drop 3)
  | 4 => some ([quote], cs.drop 4)
  | _ => some ([quote, quote], cs.drop 5)

/-- Whether a line holds nothing more. -/
def endsLine (cs : List Char) : Bool :=
  (afterLineEnd? (cs.dropWhile isBlank)).isSome

/-- Reads several lines up to three closing quotes. A backslash at the end of a line drops the
blanks and line ends after it, which `dropping` stands for. -/
def readLines (quote : Char) (escapes : Bool) :
    Nat → Bool → List Char → List Char → Option (String × List Char)
  | 0, _, _, _ => none
  | _ + 1, _, _, [] => none
  | count + 1, dropping, done, c :: rest =>
    match afterLineEnd? (c :: rest) with
    | some rest => readLines quote escapes count dropping (if dropping then done else '\n' :: done)
      rest
    | none =>
      if dropping && isBlank c then readLines quote escapes count true done rest
      else
        match afterQuotes? quote (c :: rest) with
        | some (quotes, rest) => some (String.ofList (quotes ++ done).reverse, rest)
        | none =>
          if escapes && c = '\\' then
            if endsLine rest then readLines quote escapes count true done rest
            else
              match readEscape rest with
              | some (c, rest) => readLines quote escapes count false (c :: done) rest
              | none => none
          else if isControl c then none
          else readLines quote escapes count false (c :: done) rest

/-- Reads several lines after their opening quotes; a line end right there is dropped. -/
def readBlock (quote : Char) (escapes : Bool) (cs : List Char) : Option (String × List Char) :=
  let cs := (afterLineEnd? cs).getD cs
  readLines quote escapes (cs.length + 1) false [] cs

/-- Reads a text of one line in either kind of quotes. -/
def readLine : List Char → Option (String × List Char)
  | '"' :: rest => readBasic (rest.length + 1) [] rest
  | '\x27' :: rest => readLiteral rest
  | _ => none

/-- Reads a text in quotes of any kind. -/
def readQuoted : List Char → Option (String × List Char)
  | '"' :: '"' :: '"' :: rest => readBlock '"' true rest
  | '\x27' :: '\x27' :: '\x27' :: rest => readBlock '\x27' false rest
  | cs => readLine cs

end TransactSql.Toml
