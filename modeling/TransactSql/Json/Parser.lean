import TransactSql.Json.Number

/-!
# Reading JSON text

A strict reader: one value with nothing but blanks around it, no control characters in strings,
surrogate escapes in pairs only, and at most 127 arrays and objects inside one another. The
limit on nesting is also what the reader recurses on.

A value that nobody asks for is passed over: it may nest without a limit, and the units that its
escapes stand for are not looked at. A record is read with a reader for each of its names, and its
other members are passed over.
-/

namespace TransactSql.Json

/-- Takes a value off the front of a text. -/
abbrev Reader :=
  List Char → Option (Json × List Char)

/-- The blanks between the parts of a value. -/
def isBlank (c : Char) : Bool :=
  c == ' ' || c == '\n' || c == '\t' || c == '\r'

/-- The text after leading blanks. -/
def skipBlanks (cs : List Char) : List Char :=
  cs.dropWhile isBlank

/-- The value of a hexadecimal digit. -/
def hexDigit? (c : Char) : Option Nat :=
  if '0' ≤ c && c ≤ '9' then some (c.toNat - '0'.toNat)
  else if 'a' ≤ c && c ≤ 'f' then some (c.toNat - 'a'.toNat + 10)
  else if 'A' ≤ c && c ≤ 'F' then some (c.toNat - 'A'.toNat + 10)
  else none

/-- The unit of four hexadecimal digits. -/
def unit? (a b c d : Char) : Option Nat := do
  let a ← hexDigit? a
  let b ← hexDigit? b
  let c ← hexDigit? c
  let d ← hexDigit? d
  return ((a * 16 + b) * 16 + c) * 16 + d

/-- The character of an escape with one letter. -/
def shortEscape? : Char → Option Char
  | '"' => some '"'
  | '\\' => some '\\'
  | '/' => some '/'
  | 'b' => some '\x08'
  | 'f' => some '\x0c'
  | 'n' => some '\n'
  | 'r' => some '\r'
  | 't' => some '\t'
  | _ => none

/-- Reads a string after its opening quote; `done` holds what was read, the last first. -/
def readString (done : List Char) : List Char → Option (String × List Char)
  | [] => none
  | '"' :: rest => some (String.ofList done.reverse, rest)
  | '\\' :: 'u' :: a :: b :: c :: d :: rest =>
    match unit? a b c d with
    | none => none
    | some unit =>
      if 0xDC00 ≤ unit && unit < 0xE000 then none
      else if 0xD800 ≤ unit && unit < 0xDC00 then
        match rest with
        | '\\' :: 'u' :: e :: f :: g :: h :: rest =>
          match unit? e f g h with
          | some low =>
            if 0xDC00 ≤ low && low < 0xE000 then
              readString (Char.ofNat (0x10000 + (unit - 0xD800) * 0x400 + (low - 0xDC00)) :: done)
                rest
            else none
          | none => none
        | _ => none
      else readString (Char.ofNat unit :: done) rest
  | '\\' :: c :: rest =>
    match shortEscape? c with
    | some c => readString (c :: done) rest
    | none => none
  | c :: rest => if c.toNat < 0x20 then none else readString (c :: done) rest

/-- Passes over a string after its opening quote. -/
def skipString : List Char → Option (List Char)
  | [] => none
  | '"' :: rest => some rest
  | '\\' :: 'u' :: a :: b :: c :: d :: rest =>
    if (unit? a b c d).isSome then skipString rest else none
  | '\\' :: c :: rest => if (shortEscape? c).isSome then skipString rest else none
  | c :: rest => if c.toNat < 0x20 then none else skipString rest

/-- Reads the digits that a text starts with; there must be one. -/
def readDigits (cs : List Char) : Option (List Char × List Char) :=
  match cs.takeWhile Char.isDigit with
  | [] => none
  | digits => some (digits, cs.dropWhile Char.isDigit)

/-- Reads an exponent, if the text starts with one. -/
def readExponent (cs : List Char) : Option (Option Int × List Char) :=
  match cs with
  | c :: rest =>
    if c == 'e' || c == 'E' then
      let (negative, rest) :=
        match rest with
        | '-' :: rest => (true, rest)
        | '+' :: rest => (false, rest)
        | rest => (false, rest)
      match readDigits rest with
      | some (digits, rest) =>
        let n : Nat := digits.foldl (fun n c => n * 10 + (c.toNat - '0'.toNat)) 0
        some (some (if negative then -n else n), rest)
      | none => none
    else some (none, cs)
  | [] => some (none, cs)

/-- Reads a number. A leading zero stands alone before the point. -/
def readNumber (cs : List Char) : Option (Number × List Char) := do
  let (negative, cs) :=
    match cs with
    | '-' :: rest => (true, rest)
    | cs => (false, cs)
  let (whole, cs) ← readDigits cs
  if whole.head? == some '0' && whole.length != 1 then none
  else
    let (fraction, cs) ←
      match cs with
      | '.' :: rest => (readDigits rest).map fun (digits, rest) => (some digits, rest)
      | cs => some (none, cs)
    let (exponent, cs) ← readExponent cs
    return (.ofDigits negative whole fraction exponent, cs)

/-- Reads what is no array, object or string. -/
def readAtom (cs : List Char) : Option (Json × List Char) :=
  match cs with
  | 'n' :: 'u' :: 'l' :: 'l' :: rest => some (.null, rest)
  | 't' :: 'r' :: 'u' :: 'e' :: rest => some (.bool true, rest)
  | 'f' :: 'a' :: 'l' :: 's' :: 'e' :: rest => some (.bool false, rest)
  | cs => (readNumber cs).map fun (n, rest) => (.number n, rest)

/-- Reads the items of an array after the first, each behind a comma, up to the bracket. Each item
has a reader by its place. The count bounds the items that are read. -/
def readItems (value : Nat → Reader) :
    Nat → List Json → List Char → Option (List Json × List Char)
  | 0, _, _ => none
  | count + 1, done, cs =>
    match skipBlanks cs with
    | ']' :: rest => some (done.reverse, rest)
    | ',' :: rest =>
      match value done.length rest with
      | some (item, rest) => readItems value count (item :: done) rest
      | none => none
    | _ => none

/-- Reads an array after its bracket. -/
def readArray (value : Nat → Reader) : Reader := fun cs =>
  match skipBlanks cs with
  | ']' :: rest => some (.array [], rest)
  | cs => do
    let (item, rest) ← value 0 cs
    let (items, rest) ← readItems value (rest.length + 1) [item] rest
    return (.array items, rest)

/-- Reads a member of an object: a name, a colon and a value, which has a reader by the name. -/
def readMember (text : List Char → Option (String × List Char)) (value : String → Reader)
    (cs : List Char) : Option ((String × Json) × List Char) :=
  match skipBlanks cs with
  | '"' :: rest =>
    match text rest with
    | some (name, rest) =>
      match skipBlanks rest with
      | ':' :: rest => (value name rest).map fun (v, rest) => ((name, v), rest)
      | _ => none
    | none => none
  | _ => none

/-- Reads the members of an object after the first, each behind a comma, up to the brace. -/
def readMembers (text : List Char → Option (String × List Char)) (value : String → Reader) :
    Nat → List (String × Json) → List Char → Option (List (String × Json) × List Char)
  | 0, _, _ => none
  | count + 1, done, cs =>
    match skipBlanks cs with
    | c :: rest =>
      if c == '\x7d' then some (done.reverse, rest)
      else if c == ',' then
        match readMember text value rest with
        | some (m, rest) => readMembers text value count (m :: done) rest
        | none => none
      else none
    | [] => none

/-- Reads an object after its brace. -/
def readObject (text : List Char → Option (String × List Char)) (value : String → Reader) :
    Reader := fun cs =>
  match skipBlanks cs with
  | [] => none
  | c :: rest =>
    if c == '\x7d' then some (.object [], rest)
    else do
      let (m, rest) ← readMember text value cs
      let (members, rest) ← readMembers text value (rest.length + 1) [m] rest
      return (.object members, rest)

/-- Reads a value with at most `depth` levels of arrays and objects, and strings in the given
way. -/
def readValueBy (text : List Char → Option (String × List Char)) : Nat → Reader
  | depth, cs =>
    match skipBlanks cs with
    | [] => none
    | '"' :: rest => (text rest).map fun (s, rest) => (.string s, rest)
    | c :: rest =>
      if c == '[' then
        match depth with
        | 0 => none
        | depth + 1 => readArray (fun _ => readValueBy text depth) rest
      else if c == '\x7b' then
        match depth with
        | 0 => none
        | depth + 1 => readObject text (fun _ => readValueBy text depth) rest
      else readAtom (c :: rest)

/-- Reads a value with at most `depth` levels of arrays and objects. -/
def readValue (depth : Nat) : Reader :=
  readValueBy (readString []) depth

/-- Passes over a value. It has fewer levels than the text has characters. -/
def skipValue : Reader := fun cs =>
  (readValueBy (fun cs => (skipString cs).map ("", ·)) cs.length cs).map fun (_, rest) =>
    (.null, rest)

/-- Reads a record with at most `depth` levels, whose members are read by their names or, where the
record is an array, by their places. -/
def readRecord (fields : Nat → List (String × Reader)) (depth : Nat) : Reader := fun cs =>
  match depth, skipBlanks cs with
  | depth + 1, c :: rest =>
    if c == '\x7b' then
      readObject (readString []) (fun name => ((fields depth).lookup name).getD skipValue) rest
    else if c == '[' then
      readArray (fun place => (((fields depth).map (·.2))[place]?).getD (readValue depth)) rest
    else readValue (depth + 1) (c :: rest)
  | _, cs => readValue depth cs

/-- The value of a text that holds nothing else, by a reader of it. -/
def parseBy? (read : Reader) (s : String) : Option Json :=
  match read s.toList with
  | some (value, rest) => if (skipBlanks rest).isEmpty then some value else none
  | none => none

/-- The value of a text that holds nothing else and nests at most `depth` levels. -/
def parseWithin? (depth : Nat) (s : String) : Option Json :=
  parseBy? (readValue depth) s

/-- How many arrays and objects may stand inside one another. -/
def maxDepth : Nat := 127

/-- The value of a text, which holds nothing else. -/
def parse? (s : String) : Option Json :=
  parseWithin? maxDepth s

end TransactSql.Json
