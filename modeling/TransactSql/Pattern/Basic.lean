import TransactSql.Text.FoldCase
import TransactSql.Text.WhiteSpace
import TransactSql.Text.Word

/-!
# Patterns for names

Regular expressions by which names are selected. A pattern is searched for anywhere in a name;
only places such as the start and the end tie it down.
-/

namespace TransactSql

namespace Pattern

/-- Characters that have a name of their own in patterns. -/
inductive Kind where
  | digit | space | word
deriving DecidableEq, Repr, Inhabited

/-- Whether a character is of a kind. -/
def Kind.has : Kind → Char → Bool
  | digit, c => Text.isDecimalDigit c
  | space, c => Text.isWhiteSpace c
  | word, c => Text.isWordCharacter c

/-- A part of a class of characters. -/
inductive ClassItem where
  | range (first last : Nat)
  /-- The characters of a kind, or all others. -/
  | kind (k : Kind) (positive : Bool)
deriving DecidableEq, Repr, Inhabited

/-- Whether a code point belongs to a part. -/
def ClassItem.has : ClassItem → Nat → Bool
  | range first last, n => first ≤ n && n ≤ last
  | kind k positive, n => k.has (Char.ofNat n) == positive

/-- A class of characters. -/
structure CharClass where
  items : List ClassItem
  /-- Whether the class holds what the items do not have. -/
  negated : Bool := false
  /-- Whether case makes no difference. -/
  anyCase : Bool := false
deriving DecidableEq, Repr, Inhabited

/-- Whether a character belongs to a class. -/
def CharClass.has (cls : CharClass) (c : Char) : Bool :=
  let variants := if cls.anyCase then Text.caseVariants c else [c.toNat]
  (cls.items.any fun item => variants.any item.has) != cls.negated

/-- A place between characters. -/
inductive Place where
  | start | stop | lineStart | lineStop | wordBoundary | insideOrOutside
deriving DecidableEq, Repr, Inhabited

end Pattern

/-- A regular expression. -/
inductive Pattern where
  /-- Nothing, which is found everywhere. -/
  | empty
  | one (cls : Pattern.CharClass)
  | place (p : Pattern.Place)
  | both (first second : Pattern)
  | either (first second : Pattern)
  | repeated (p : Pattern) (least : Nat) (most : Option Nat)
  | named (name : String) (p : Pattern)
deriving Repr, Inhabited

namespace Pattern

/-- One pattern after the other. -/
def sequence : List Pattern → Pattern
  | [] => empty
  | [p] => p
  | p :: rest => both p (sequence rest)

/-- The names of the groups of a pattern. -/
def groupNames : Pattern → List String
  | empty | one _ | place _ => []
  | both p q | either p q => p.groupNames ++ q.groupNames
  | repeated p _ _ => p.groupNames
  | named name p => name :: p.groupNames

/-! ## Search -/

/-- A place in a text: the characters before it, the last first, and those after it. -/
structure Cursor where
  before : List Char
  after : List Char
deriving DecidableEq, Repr, Inhabited

/-- Whether a character is there and belongs to a word. -/
def isWord (c : Option Char) : Bool :=
  c.any Text.isWordCharacter

/-- Whether a cursor is at a place. -/
def Place.holds : Place → Cursor → Bool
  | start, c => c.before.isEmpty
  | stop, c => c.after.isEmpty
  | lineStart, c => c.before.head?.all (· == '\n')
  | lineStop, c => c.after.head?.all (· == '\n')
  | wordBoundary, c => isWord c.before.head? != isWord c.after.head?
  | insideOrOutside, c => isWord c.before.head? == isWord c.after.head?

/-- Everywhere that one step leads to from some cursors. -/
def advance (step : Cursor → List Cursor) (cursors : List Cursor) : List Cursor :=
  (cursors.flatMap step).eraseDups

/-- Everywhere that a number of steps leads to. -/
def advanceBy (step : Cursor → List Cursor) : Nat → List Cursor → List Cursor
  | 0, cursors => cursors
  | n + 1, cursors => advanceBy step n (advance step cursors)

/-- Everywhere that at most a number of steps leads to. -/
def advanceUpTo (step : Cursor → List Cursor) : Nat → List Cursor → List Cursor
  | 0, cursors => cursors
  | n + 1, cursors => (cursors ++ advanceUpTo step n (advance step cursors)).eraseDups

/-- The ends of all occurrences that start at a cursor. More repetitions than there are characters
lead nowhere new. -/
def ends : Pattern → Cursor → List Cursor
  | empty, c => [c]
  | one cls, c =>
    match c.after with
    | x :: rest => if cls.has x then [⟨x :: c.before, rest⟩] else []
    | [] => []
  | place p, c => if p.holds c then [c] else []
  | both p q, c => advance q.ends (p.ends c)
  | either p q, c => (p.ends c ++ q.ends c).eraseDups
  | repeated p least most, c =>
    let more := most.elim c.after.length (· - least)
    advanceUpTo p.ends more (advanceBy p.ends least [c])
  | named _ p, c => p.ends c

/-- Whether a pattern occurs at a cursor or further on. -/
def occursFrom (p : Pattern) (before : List Char) : List Char → Bool
  | [] => !(p.ends ⟨before, []⟩).isEmpty
  | c :: rest => !(p.ends ⟨before, c :: rest⟩).isEmpty || p.occursFrom (c :: before) rest

/-- Whether a pattern occurs in a text. -/
def occursIn (p : Pattern) (s : String) : Bool :=
  p.occursFrom [] s.toList

end Pattern

end TransactSql
