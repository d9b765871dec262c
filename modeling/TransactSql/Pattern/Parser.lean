import TransactSql.Pattern.Basic

/-!
# Reading patterns

The usual notation of regular expressions: characters for themselves, classes in brackets, groups
in parentheses, alternatives behind a bar, and repetitions behind what they repeat. Groups nest
at most 250 levels, which is also what the reader recurses on. What looks ahead or refers back
has no pattern.
-/

namespace TransactSql.Pattern

/-- How characters are understood from a place in a pattern on. -/
structure Flags where
  /-- Case makes no difference. -/
  anyCase : Bool := false
  /-- The dot stands for line ends too. -/
  dotAll : Bool := false
  /-- Lines have a start and an end of their own. -/
  lines : Bool := false
deriving DecidableEq, Repr, Inhabited

/-- A character for itself. -/
def Flags.literal (flags : Flags) (c : Char) : Pattern :=
  one ⟨[.range c.toNat c.toNat], false, flags.anyCase⟩

/-! ## Escapes -/

/-- What a backslash and a character stand for. -/
inductive Escape where
  | literal (c : Char)
  | kind (k : Kind) (positive : Bool)
  | place (p : Place)
deriving DecidableEq, Repr

/-- The meaning of a character after a backslash. Letters and digits without a meaning and
everything beyond ASCII have none, and other characters stand for themselves. -/
def escape? : Char → Option Escape
  | 'd' => some (.kind .digit true)
  | 'D' => some (.kind .digit false)
  | 's' => some (.kind .space true)
  | 'S' => some (.kind .space false)
  | 'w' => some (.kind .word true)
  | 'W' => some (.kind .word false)
  | 'b' => some (.place .wordBoundary)
  | 'B' => some (.place .insideOrOutside)
  | 'A' => some (.place .start)
  | 'z' => some (.place .stop)
  | 'a' => some (.literal '\x07')
  | 'f' => some (.literal '\x0c')
  | 't' => some (.literal '\t')
  | 'n' => some (.literal '\n')
  | 'r' => some (.literal '\r')
  | 'v' => some (.literal '\x0b')
  | c =>
    if c.isAlphanum || c == '<' || c == '>' || 0x80 ≤ c.toNat then none else some (.literal c)

/-- The pattern of an escape. -/
def Escape.toPattern (flags : Flags) : Escape → Pattern
  | literal c => flags.literal c
  | kind k positive => one ⟨[.kind k positive], false, flags.anyCase⟩
  | place p => .place p

/-! ## Classes -/

/-- Reads one character or kind of a class. -/
def readClassAtom : List Char → Option (Escape × List Char)
  | '\\' :: c :: rest =>
    match escape? c with
    | some (.place _) | none => none
    | some e => some (e, rest)
  | '\\' :: [] => none
  | c :: rest => some (.literal c, rest)
  | [] => none

/-- Reads a part of a class: a range, a character or a kind. -/
def readClassItem (cs : List Char) : Option (ClassItem × List Char) := do
  let (first, rest) ← readClassAtom cs
  let single : ClassItem :=
    match first with
    | .literal c => .range c.toNat c.toNat
    | .kind k positive => .kind k positive
    | .place _ => .range 1 0
  match rest with
  | '-' :: next :: _ =>
    if next == ']' || next == '-' then return (single, rest)
    else
      let (last, rest) ← readClassAtom rest.tail
      match first, last with
      | .literal c, .literal d =>
        if c.toNat ≤ d.toNat then return (.range c.toNat d.toNat, rest) else none
      | _, _ => none
  | _ => return (single, rest)

/-- Whether what follows would put a class inside a class or combine two of them, which no
pattern does. -/
def combinesClasses : List Char → Bool
  | '[' :: _ | '&' :: '&' :: _ | '-' :: '-' :: _ | '~' :: '~' :: _ => true
  | _ => false

/-- Reads the parts of a class up to its bracket; `done` holds the parts, the last first. The
count bounds the parts. -/
def readClassItems : Nat → List ClassItem → List Char → Option (List ClassItem × List Char)
  | 0, _, _ => none
  | count + 1, done, cs =>
    match cs with
    | ']' :: rest => some (done.reverse, rest)
    | cs =>
      if combinesClasses cs then none
      else
        match readClassItem cs with
        | some (item, rest) => readClassItems count (item :: done) rest
        | none => none

/-- Reads a class after its opening bracket. Dashes at the start stand for themselves, and so does
a closing bracket at the very start. -/
def readClass (flags : Flags) (cs : List Char) : Option (Pattern × List Char) := do
  let (negated, cs) :=
    match cs with
    | '^' :: rest => (true, rest)
    | cs => (false, cs)
  let dashes := (cs.takeWhile (· == '-')).map fun c => ClassItem.range c.toNat c.toNat
  let cs := cs.dropWhile (· == '-')
  let (start, cs) :=
    match dashes, cs with
    | [], ']' :: rest => ([ClassItem.range ']'.toNat ']'.toNat], rest)
    | dashes, cs => (dashes, cs)
  let (items, rest) ← readClassItems (cs.length + 1) start.reverse cs
  return (one ⟨items, negated, flags.anyCase⟩, rest)

/-! ## Repetitions -/

/-- Reads a number with white space around it. It has at most 32 bits. -/
def readCount (cs : List Char) : Option (Nat × List Char) :=
  let cs := cs.dropWhile Text.isWhiteSpace
  match cs.takeWhile Char.isDigit with
  | [] => none
  | digits =>
    let n := digits.foldl (fun n c => n * 10 + (c.toNat - '0'.toNat)) 0
    let rest := (cs.dropWhile Char.isDigit).dropWhile Text.isWhiteSpace
    if n < UInt32.size then some (n, rest) else none

/-- The text after a closing brace. -/
def afterBrace? : List Char → Option (List Char)
  | c :: rest => if c = '\x7d' then some rest else none
  | [] => none

/-- Reads how often something is repeated, after the opening brace. -/
def readBounds (cs : List Char) : Option ((Nat × Option Nat) × List Char) := do
  let (least, rest) ← readCount cs
  match rest with
  | ',' :: rest =>
    match afterBrace? rest with
    | some rest => return ((least, none), rest)
    | none => do
      let (most, rest) ← readCount rest
      let rest ← afterBrace? rest
      if least ≤ most then return ((least, some most), rest) else none
  | rest => do
    let rest ← afterBrace? rest
    return ((least, some least), rest)

/-- Reads how often something is repeated. -/
def readRepetition (c : Char) (rest : List Char) : Option ((Nat × Option Nat) × List Char) :=
  if c = '*' then some ((0, none), rest)
  else if c = '+' then some ((1, none), rest)
  else if c = '?' then some ((0, some 1), rest)
  else readBounds rest

/-- Whether a character starts a repetition. -/
def startsRepetition (c : Char) : Bool :=
  c == '*' || c == '+' || c == '?' || c == '\x7b'

/-- The text after the mark that prefers fewer repetitions, which makes no difference to whether
a pattern occurs. -/
def skipLazyMark : List Char → List Char
  | '?' :: rest => rest
  | cs => cs

/-! ## Groups -/

/-- How a group starts. -/
inductive GroupStart where
  | plain (flags : Flags)
  | named (name : String)
  /-- Flags for the rest of the group that they stand in. -/
  | directive (flags : Flags)
deriving DecidableEq, Repr

/-- Whether a text can name a group. -/
def isGroupName : List Char → Bool
  | [] => false
  | c :: rest =>
    (c == '_' || Text.isAlphabetic c) &&
      rest.all fun c =>
        c == '_' || c == '.' || c == '[' || c == ']' || Text.isAlphanumeric c

/-- Reads the name of a group up to its closing bracket. -/
def readGroupName (cs : List Char) : Option (GroupStart × List Char) :=
  let name := cs.takeWhile (· != '>')
  match cs.dropWhile (· != '>') with
  | _ :: rest => if isGroupName name then some (.named (String.ofList name), rest) else none
  | [] => none

/-- Sets a flag; the mark for fewer repetitions changes nothing. -/
def Flags.set? (flags : Flags) (c : Char) (value : Bool) : Option Flags :=
  match c with
  | 'i' => some { flags with anyCase := value }
  | 's' => some { flags with dotAll := value }
  | 'm' => some { flags with lines := value }
  | 'U' => some flags
  | _ => none

/-- Reads flags up to a colon or a closing parenthesis; `seen` holds the characters before, the
last first. A flag stands once, and a dash before those that are switched off. -/
def readFlags (flags : Flags) (seen : List Char) : List Char → Option (GroupStart × List Char)
  | [] => none
  | c :: rest =>
    if c = ':' || c = ')' then
      if seen.head? = some '-' || (c = ')' && seen.isEmpty) then none
      else some (if c = ':' then .plain flags else .directive flags, rest)
    else if seen.contains c then none
    else if c = '-' then readFlags flags (c :: seen) rest
    else
      match flags.set? c (!seen.contains '-') with
      | some flags => readFlags flags (c :: seen) rest
      | none => none

/-- Reads how a group starts, after its parenthesis. -/
def readGroupStart (flags : Flags) : List Char → Option (GroupStart × List Char)
  | '?' :: 'P' :: '<' :: rest => readGroupName rest
  | '?' :: '<' :: rest => readGroupName rest
  | '?' :: rest => readFlags flags [] rest
  | rest => some (.plain flags, rest)

/-! ## Patterns -/

/-- A pattern as far as it has been read: the alternatives before the last bar, the first first,
and the parts after it, the last first. Flags take the place of a part, which cannot be
repeated. -/
structure Progress where
  alternatives : List Pattern := []
  parts : List (Option Pattern) := []
  flags : Flags := {}
deriving Inhabited

namespace Progress

/-- The alternative that is being read. -/
def alternative (s : Progress) : Pattern :=
  sequence (s.parts.reverse.filterMap id)

/-- The pattern of all alternatives. -/
def finish (s : Progress) : Pattern :=
  s.alternatives.foldr either s.alternative

/-- One part more. -/
def push (s : Progress) (p : Pattern) : Progress :=
  { s with parts := some p :: s.parts }

/-- The next alternative. -/
def next (s : Progress) : Progress :=
  { s with alternatives := s.alternatives ++ [s.alternative], parts := [] }

/-- Repeats the last part, which must be there. -/
def repeatLast (s : Progress) (least : Nat) (most : Option Nat) : Option Progress :=
  match s.parts with
  | some p :: rest => some { s with parts := some (repeated p least most) :: rest }
  | _ => none

end Progress

/-- Reads a part that is no group. -/
def readPart (s : Progress) (c : Char) (rest : List Char) : Option (Progress × List Char) :=
  if c = '.' then
    let excluded := if s.flags.dotAll then [] else [ClassItem.range 10 10]
    some (s.push (one ⟨excluded, true, false⟩), rest)
  else if c = '^' then some (s.push (place (if s.flags.lines then .lineStart else .start)), rest)
  else if c = '$' then some (s.push (place (if s.flags.lines then .lineStop else .stop)), rest)
  else if c = '[' then (readClass s.flags rest).map fun (p, rest) => (s.push p, rest)
  else if c = '\\' then
    match rest with
    | d :: rest => (escape? d).map fun e => (s.push (e.toPattern s.flags), rest)
    | [] => none
  else if startsRepetition c then
    (readRepetition c rest).bind fun ((least, most), rest) =>
      (s.repeatLast least most).map (·, skipLazyMark rest)
  else some (s.push (s.flags.literal c), rest)

/-- Reads the parts of a pattern up to a closing parenthesis or the end. The count bounds the
parts, and `group` reads what stands in parentheses. -/
def readParts (group : Flags → List Char → Option (Pattern × List Char)) :
    Nat → Progress → List Char → Option (Pattern × List Char)
  | 0, _, _ => none
  | _ + 1, s, [] => some (s.finish, [])
  | count + 1, s, c :: rest =>
    if c = ')' then some (s.finish, c :: rest)
    else if c = '|' then readParts group count s.next rest
    else if c = '(' then
      match readGroupStart s.flags rest with
      | none => none
      | some (.directive flags, rest) =>
        readParts group count { s with flags, parts := none :: s.parts } rest
      | some (.plain flags, rest) =>
        match group flags rest with
        | some (p, rest) => readParts group count (s.push p) rest
        | none => none
      | some (.named name, rest) =>
        match group s.flags rest with
        | some (p, rest) => readParts group count (s.push (named name p)) rest
        | none => none
    else
      match readPart s c rest with
      | some (s, rest) => readParts group count s rest
      | none => none

/-- Reads a group up to and with its closing parenthesis. -/
def readGroup : Nat → Flags → List Char → Option (Pattern × List Char)
  | 0, _, _ => none
  | depth + 1, flags, cs =>
    match readParts (readGroup depth) (cs.length + 1) { flags } cs with
    | some (p, ')' :: rest) => some (p, rest)
    | _ => none

/-- The levels that groups may nest. -/
def maxDepth : Nat := 250

/-- The pattern of a text. The names of its groups differ. -/
def parse? (s : String) : Option Pattern :=
  match readParts (readGroup maxDepth) (s.toList.length + 1) {} s.toList with
  | some (p, []) => if p.groupNames.eraseDups.length = p.groupNames.length then some p else none
  | _ => none

end TransactSql.Pattern
