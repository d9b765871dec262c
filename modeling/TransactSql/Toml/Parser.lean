import TransactSql.Toml.Number
import TransactSql.Toml.Quoted

/-!
# Reading TOML

A document is read line by line: a header opens a table, and a key with a value defines a member
of the table that was opened last. What nests, arrays and tables between braces, nests at most
80 levels, which is also what the reader recurses on.
-/

namespace TransactSql.Toml

/-- The text after blanks. -/
def skipBlanks (cs : List Char) : List Char :=
  cs.dropWhile isBlank

/-- The text after a comment, if there is one; none if it holds a control character. -/
def skipComment (cs : List Char) : Option (List Char) :=
  match cs with
  | '#' :: _ =>
    let comment := cs.takeWhile (fun c => c != '\n' && c != '\r')
    if comment.any isControl then none
    else some (cs.dropWhile (fun c => c != '\n' && c != '\r'))
  | cs => some cs

/-- The text after blanks, comments and line ends. The count bounds the lines. -/
def skipLines : Nat → List Char → Option (List Char)
  | 0, _ => none
  | count + 1, cs =>
    match skipComment (skipBlanks cs) with
    | none => none
    | some rest =>
      match afterLineEnd? rest with
      | some rest => skipLines count rest
      | none => some rest

/-- The text after everything between two items of an array. -/
def skipGap (cs : List Char) : Option (List Char) :=
  skipLines (cs.length + 1) cs

/-- Whether a character can stand in a key without quotes. -/
def isKeyCharacter (c : Char) : Bool :=
  c.isAlphanum || c == '_' || c == '-'

/-- Reads a part of a key. -/
def readKeyPart (cs : List Char) : Option (String × List Char) :=
  match cs.takeWhile isKeyCharacter with
  | [] => readLine cs
  | name => some (String.ofList name, cs.dropWhile isKeyCharacter)

/-- Reads the parts of a key, with dots between them, and blanks on both sides of the key. The
count bounds the parts. -/
def readKeyParts : Nat → List Char → Option (List String × List Char)
  | 0, _ => none
  | count + 1, cs =>
    match readKeyPart (skipBlanks cs) with
    | none => none
    | some (name, rest) =>
      match skipBlanks rest with
      | '.' :: rest => (readKeyParts count rest).map fun (names, rest) => (name :: names, rest)
      | rest => some ([name], rest)

/-- Reads a key: the parts before the last one, and the last one. -/
def readKey (cs : List Char) : Option (List String × String × List Char) := do
  let (names, rest) ← readKeyParts (cs.length + 1) cs
  let name ← names.getLast?
  return (names.dropLast, name, rest)

/-- Reads a key and its value, and defines it in a table. -/
def readMember (value : List Char → Option (Toml × List Char)) (origin : Origin)
    (members : Members) (cs : List Char) : Option (Members × List Char) := do
  let (path, name, rest) ← readKey cs
  match rest with
  | '=' :: rest => do
    let (v, rest) ← value (skipBlanks rest)
    let members ← define path name v origin members
    return (members, rest)
  | _ => none

/-- Reads the items of an array up to its bracket; a comma may follow the last one. -/
def readItems (value : List Char → Option (Toml × List Char)) :
    Nat → List Toml → List Char → Option (List Toml × List Char)
  | 0, _, _ => none
  | count + 1, done, cs => do
    match ← skipGap cs with
    | ']' :: rest => return (done.reverse, rest)
    | rest => do
      let (item, rest) ← value rest
      match ← skipGap rest with
      | ',' :: rest => readItems value count (item :: done) rest
      | ']' :: rest => return ((item :: done).reverse, rest)
      | _ => none

/-- Reads the members of a table up to its brace; a comma may follow the last one. -/
def readMembers (value : List Char → Option (Toml × List Char)) :
    Nat → Members → List Char → Option (Members × List Char)
  | 0, _, _ => none
  | count + 1, members, cs => do
    match ← skipGap cs with
    | [] => none
    | c :: rest =>
      if c = '\x7d' then return (members, rest)
      else do
        let (members, rest) ← readMember value .inline members (c :: rest)
        match ← skipGap rest with
        | [] => none
        | c :: rest =>
          if c = ',' then readMembers value count members rest
          else if c = '\x7d' then return (members, rest)
          else none

/-- Reads a value with at most `depth` levels of arrays and tables. -/
def readValue : Nat → List Char → Option (Toml × List Char)
  | depth, cs =>
    match cs with
    | [] => none
    | c :: rest =>
      if c = '"' || c = '\x27' then (readQuoted cs).map fun (s, rest) => (.string s, rest)
      else if c = '[' then
        match depth with
        | 0 => none
        | depth + 1 =>
          (readItems (readValue depth) (rest.length + 1) [] rest).map fun (items, rest) =>
            (.array items, rest)
      else if c = '\x7b' then
        match depth with
        | 0 => none
        | depth + 1 =>
          (readMembers (readValue depth) (rest.length + 1) [] rest).map fun (members, rest) =>
            (.table .inline members, rest)
      else
        let (text, rest) := takeScalar cs
        (scalar? text).map (·, rest)

/-- The levels that values may nest. -/
def maxDepth : Nat := 80

/-- A document as far as it has been read: its members, and the path of the table that was opened
last. -/
structure Document where
  members : Members := []
  current : List String := []
deriving Inhabited

/-- Reads a line that is neither blank nor a comment, up to its end. -/
def Document.readLine (d : Document) (cs : List Char) : Option (Document × List Char) :=
  match cs with
  | '[' :: '[' :: rest => do
    let (path, name, rest) ← readKey rest
    match rest with
    | ']' :: ']' :: rest => return (⟨← openNext path name d.members, path ++ [name]⟩, rest)
    | _ => none
  | '[' :: rest => do
    let (path, name, rest) ← readKey rest
    match rest with
    | ']' :: rest => return (⟨← openTable path name d.members, path ++ [name]⟩, rest)
    | _ => none
  | cs => do
    let (path, name, rest) ← readKey cs
    match rest with
    | '=' :: rest => do
      let (value, rest) ← readValue maxDepth (skipBlanks rest)
      let members ← change false (define path name value) d.current .header d.members
      return ({ d with members }, rest)
    | _ => none

/-- Reads the lines of a document to the end. The count bounds the lines. -/
def Document.read : Nat → Document → List Char → Option Document
  | 0, _, _ => none
  | count + 1, d, cs =>
    match skipGap cs with
    | none => none
    | some [] => some d
    | some rest =>
      match d.readLine rest with
      | none => none
      | some (d, rest) =>
        match skipComment (skipBlanks rest) with
        | none => none
        | some [] => some d
        | some rest =>
          match afterLineEnd? rest with
          | some rest => read count d rest
          | none => none

/-- The table of a document. A byte order mark may stand before it. -/
def parse? (s : String) : Option Toml :=
  let cs :=
    match s.toList with
    | '\uFEFF' :: rest => rest
    | cs => cs
  (Document.read (cs.length + 1) {} cs).map fun d => .table .header d.members

end TransactSql.Toml
