import TransactSql.Config.Error
import TransactSql.NameTable
import TransactSql.Text.Alphanumeric

/-!
# Environment variables

The variables of a process, and texts that refer to them: a dollar sign with a name, which may
stand in braces, is replaced by the value of the variable. A value is inserted as it is, so a
dollar sign in it refers to nothing.
-/

namespace TransactSql

/-- The variables of a process. -/
abbrev Environment := NameTable String

namespace Environment

/-- Whether a character can be part of a name without braces. -/
def isNameCharacter (c : Char) : Bool :=
  Text.isAlphanumeric c || c == '_'

/-- The name after a dollar sign, and the text after the name. In braces everything up to the
closing one is the name, and up to the end of the text where there is none. -/
def takeName (cs : List Char) : List Char × List Char :=
  match cs with
  | [] => ([], [])
  | c :: rest =>
    if c = '\x7b' then
      (rest.takeWhile (· != '\x7d'), (rest.dropWhile (· != '\x7d')).tail)
    else (cs.takeWhile isNameCharacter, cs.dropWhile isNameCharacter)

/-- A name takes no more than there is. -/
theorem length_takeName_le (cs : List Char) : (takeName cs).2.length ≤ cs.length := by
  unfold takeName
  split
  · simp
  · next c rest =>
    split
    · have := (List.dropWhile_sublist (l := rest) (· != '\x7d')).length_le
      simp only [List.length_tail, List.length_cons]
      omega
    · exact (List.dropWhile_sublist (l := c :: rest) isNameCharacter).length_le

/-- Puts the values of variables in the place of their names. A dollar sign without a name
stands for itself. -/
def expandChars (env : Environment) : List Char → Except SettingsError (List Char)
  | [] => .ok []
  | c :: rest =>
    if c = '$' then
      match (takeName rest).1 with
      | [] => (expandChars env (takeName rest).2).map ('$' :: ·)
      | name =>
        match env.get? (String.ofList name) with
        | none => .error (.missingVariable (String.ofList name))
        | some value => (expandChars env (takeName rest).2).map (value.toList ++ ·)
    else (expandChars env rest).map (c :: ·)
termination_by cs => cs.length
decreasing_by
  all_goals
    have := length_takeName_le rest
    simp only [List.length_cons]
    omega

/-- A text with the values of variables in the place of their names. -/
def expand (env : Environment) (s : String) : Except SettingsError String :=
  (env.expandChars s.toList).map String.ofList

end Environment

end TransactSql
