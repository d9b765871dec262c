/-!
# Quoted text

A text inside quotes writes its closing quote twice, so that the quote which stands alone is the
one that ends it. Identifiers are enclosed in brackets and strings in apostrophes this way.
-/

namespace TransactSql.Text

/-- Writes every `q` twice and all else once. -/
def double (q : Char) : List Char → List Char
  | [] => []
  | c :: rest => if c = q then q :: q :: double q rest else c :: double q rest

/-- The text between `opening` and `closing`, with every `closing` inside it doubled. -/
def enclose (opening closing : Char) (s : String) : String :=
  String.ofList (opening :: double closing s.toList ++ [closing])

@[simp]
theorem double_nil (q : Char) : double q [] = [] := rfl

/-- A text without the closing quote is written as it is. -/
theorem double_eq_self {q : Char} {s : List Char} (h : q ∉ s) : double q s = s := by
  induction s with
  | nil => rfl
  | cons c rest ih =>
    have hc : c ≠ q := fun e => h (by simp [e])
    simp [double, hc, ih (fun m => h (List.mem_cons_of_mem _ m))]

end TransactSql.Text
