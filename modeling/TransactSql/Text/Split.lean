/-!
# Splitting texts

A text is split at every occurrence of one character, which the pieces do not contain. There is
always one piece more than there are occurrences.
-/

namespace TransactSql.Text

/-- The pieces of a list of characters between the occurrences of a separator. -/
def splitChars (separator : Char) : List Char → List (List Char)
  | [] => [[]]
  | c :: rest =>
    match splitChars separator rest with
    | [] => [[c]]
    | piece :: pieces =>
      if c = separator then [] :: piece :: pieces else (c :: piece) :: pieces

/-- The pieces of a text between the occurrences of a separator. -/
def split (separator : Char) (s : String) : List String :=
  (splitChars separator s.toList).map String.ofList

end TransactSql.Text
