import Mathlib.Data.List.Chain
import TransactSql.Proofs.QuietText
import TransactSql.Sql.Dialect

/-!
# Scanning statements for quotes

A scanner that knows nothing of tokens: it goes through a text from left to right and tells the
contents of brackets and apostrophes from the text around them. Inside quotes the closing one
stands for itself where it is doubled and ends the quotes otherwise.

Tokens that follow each other cannot be told apart by their texts in general, since two strings
in a row look like one string with an apostrophe in it. In a tidy list of tokens something with a
text of its own comes after everything that is quoted, and all that is not quoted is quiet. For
tidy tokens the scanner reads back exactly what was quoted and what was not (`scan_render_eq`).
-/

namespace TransactSql.Sql

open Text (IsQuiet isQuietChar double enclose)

/-! ## The scanner -/

/-- A pair of quotes. -/
inductive Quote where
  | bracket
  | apostrophe
deriving DecidableEq, Repr

/-- The character that opens quotes. -/
def Quote.opening : Quote → Char
  | bracket => '['
  | apostrophe => '\''

/-- The character that closes quotes. -/
def Quote.closing : Quote → Char
  | bracket => ']'
  | apostrophe => '\''

/-- The quotes that a character opens. -/
def Quote.ofOpening? (c : Char) : Option Quote :=
  if c = '[' then some bracket else if c = '\'' then some apostrophe else none

/-- Where the scanner is: outside of quotes, or inside them with what it has read since they were
opened. -/
inductive Mode where
  | plain
  | inside (quote : Quote) (read : List Char)
deriving DecidableEq, Repr

/-- What the scanner has found: the mode in which it ended, the contents of quotes in order, and
the text outside of quotes. -/
structure Scan where
  mode : Mode
  contents : List (Quote × String)
  plain : List Char
deriving DecidableEq, Repr

/-- What was found before a part that is scanned already. -/
def Scan.after (s : Scan) (contents : List (Quote × String)) (plain : List Char) : Scan where
  mode := s.mode
  contents := contents ++ s.contents
  plain := plain ++ s.plain

/-- Scans a text from a mode on. -/
def scan : Mode → List Char → Scan
  | mode, [] => ⟨mode, [], []⟩
  | .plain, c :: rest =>
    match Quote.ofOpening? c with
    | some quote => scan (.inside quote []) rest
    | none => (scan .plain rest).after [] [c]
  | .inside quote read, [c] =>
    if c = quote.closing then ⟨.plain, [(quote, String.ofList read)], []⟩
    else ⟨.inside quote (read ++ [c]), [], []⟩
  | .inside quote read, c :: next :: rest =>
    if c = quote.closing then
      if next = quote.closing then scan (.inside quote (read ++ [c])) rest
      else (scan .plain (next :: rest)).after [(quote, String.ofList read)] []
    else scan (.inside quote (read ++ [c])) (next :: rest)

/-- A doubled bracket and a doubled apostrophe stand for one each, and what the other quotes use
stands for itself. -/
example :
    scan .plain "[a]]'].['] + 'b''[;'".toList =
      ⟨.plain, [(.bracket, "a]'"), (.bracket, "'"), (.apostrophe, "b'[;")], ". + ".toList⟩ := by
  decide

@[simp]
theorem Scan.after_after (s : Scan) (contents contents' : List (Quote × String))
    (plain plain' : List Char) :
    (s.after contents plain).after contents' plain' =
      s.after (contents' ++ contents) (plain' ++ plain) := by
  simp [Scan.after]

/-! ## Scanning in front of other text -/

/-- A quiet character opens no quotes. -/
theorem ofOpening?_of_quiet {c : Char} (h : isQuietChar c) : Quote.ofOpening? c = none := by
  simp only [isQuietChar, Bool.and_eq_true, bne_iff_ne] at h
  unfold Quote.ofOpening?
  rw [if_neg h.1.1.1, if_neg h.1.2]

/-- Quiet text stays outside of quotes. -/
theorem scan_quiet {s : List Char} (h : IsQuiet s) (rest : List Char) :
    scan .plain (s ++ rest) = (scan .plain rest).after [] s := by
  induction s with
  | nil => rfl
  | cons c s ih =>
    obtain ⟨hc, hs⟩ := Text.isQuiet_cons.1 h
    rw [List.cons_append, scan, ofOpening?_of_quiet hc]
    simp only
    rw [ih hs, Scan.after_after]
    rfl

/-- A character that is not the closing one is read as it is. -/
theorem scan_inside_of_ne {quote : Quote} {c : Char} (hc : c ≠ quote.closing)
    (read rest : List Char) :
    scan (.inside quote read) (c :: rest) = scan (.inside quote (read ++ [c])) rest := by
  cases rest with
  | nil => simp only [scan, if_neg hc]
  | cons next rest => simp only [scan, if_neg hc]

/-- The closing character ends the quotes in front of any other character. -/
theorem scan_inside_closing {quote : Quote} {rest : List Char}
    (h : rest.head? ≠ some quote.closing) (read : List Char) :
    scan (.inside quote read) (quote.closing :: rest) =
      (scan .plain rest).after [(quote, String.ofList read)] [] := by
  cases rest with
  | nil => rw [scan.eq_3, if_pos rfl]; rfl
  | cons next rest =>
    have hnext : next ≠ quote.closing := by simpa using h
    rw [scan.eq_4, if_pos rfl, if_neg hnext]

/-- Quotes that were opened end after the text that was enclosed, and the doubling is undone. -/
theorem scan_inside_double {quote : Quote} {rest : List Char}
    (h : rest.head? ≠ some quote.closing) (s read : List Char) :
    scan (.inside quote read) (double quote.closing s ++ quote.closing :: rest) =
      (scan .plain rest).after [(quote, String.ofList (read ++ s))] [] := by
  induction s generalizing read with
  | nil => rw [List.append_nil]; exact scan_inside_closing h read
  | cons c s ih =>
    rw [double]
    split
    -- the closing character comes twice, so the quotes stay open
    · next hc =>
      rw [List.cons_append, List.cons_append, scan.eq_4, if_pos rfl, if_pos rfl, ih, hc,
        List.append_assoc, List.singleton_append]
    · next hc =>
      rw [List.cons_append, scan_inside_of_ne hc, ih, List.append_assoc, List.singleton_append]

/-- An enclosed text is one piece of quoted contents. -/
theorem scan_enclose (quote : Quote) (s : String) {rest : List Char}
    (h : rest.head? ≠ some quote.closing) :
    scan .plain ((enclose quote.opening quote.closing s).toList ++ rest) =
      (scan .plain rest).after [(quote, s)] [] := by
  have hopening : Quote.ofOpening? quote.opening = some quote := by cases quote <;> rfl
  unfold enclose
  rw [String.toList_ofList, List.append_assoc, List.cons_append, List.singleton_append, scan,
    hopening]
  simp only
  rw [scan_inside_double h, List.nil_append, String.ofList_toList]

/-- Where scanning ends outside of quotes, it goes on there with a text that goes on no quotes. -/
theorem scan_append {rest : List Char} (hrest : ∀ quote : Quote, rest.head? ≠ some quote.closing)
    {mode : Mode} {before : List Char} (h : (scan mode before).mode = .plain) :
    scan mode (before ++ rest) =
      (scan .plain rest).after (scan mode before).contents (scan mode before).plain := by
  fun_induction scan mode before with
  | case1 mode =>
    cases h
    rfl
  | case2 c before quote hc ih =>
    rw [List.cons_append, scan, hc]
    exact ih h
  | case3 c before hc ih =>
    rw [List.cons_append, scan, hc]
    simp only
    rw [ih h, Scan.after_after]
    rfl
  -- the closing character was the last one, so what follows decides whether it is doubled
  | case4 quote read => exact scan_inside_closing (hrest quote) read
  | case5 => cases h
  | case6 quote read before ih =>
    rw [List.cons_append, List.cons_append, scan.eq_4, if_pos rfl, if_pos rfl]
    exact ih h
  | case7 quote read next before hnext ih =>
    rw [List.cons_append, List.cons_append, scan.eq_4, if_pos rfl, if_neg hnext,
      ← List.cons_append, ih h, Scan.after_after]
    rfl
  | case8 quote read c next before hc ih =>
    rw [List.cons_append, scan_inside_of_ne hc]
    exact ih h

/-! ## Tokens -/

/-- The contents that a token puts into quotes: identifiers into brackets, strings and dates into
apostrophes. -/
def Token.quoted : Token → List (Quote × String)
  | .identifier name => [(.bracket, name)]
  | .qualified none name => [(.bracket, name)]
  | .qualified (some schema) name => [(.bracket, schema), (.bracket, name)]
  | .string s => [(.apostrophe, s)]
  | .date text => [(.apostrophe, text)]
  | _ => []

/-- What a token writes outside of quotes: the point between schema and table, the mark of a
national string, and all of a token that has no quotes. -/
def Token.outside : Token → List Char
  | .identifier _ | .qualified none _ | .date _ => []
  | .qualified (some _) _ => ['.']
  | .string s => if s.toList.all (·.toNat < 128) then [] else ['N']
  | t => (t.text .tsql).toList

/-- The tokens whose text is fixed. -/
def Token.isFixed : Token → Bool
  | .keyword _ | .comma | .dot | .star | .leftParen | .rightParen | .eq | .ne | .lt | .gt | .le
  | .ge | .plus | .minus | .times | .divide | .modulo | .concat | .space | .newline => true
  | _ => false

/-- What a token writes without doubling is quiet. -/
def Token.IsClean : Token → Prop
  | .identifier _ | .qualified _ _ | .string _ => True
  | .date text => IsQuiet text.toList
  | t => IsQuiet (t.text .tsql).toList

/-- Clean tokens, where a token of fixed text comes after each that has quotes. -/
structure Tidy (ts : List Token) : Prop where
  clean : ∀ t ∈ ts, t.IsClean
  apart : ts.IsChain fun t next => t.quoted = [] ∨ next.isFixed

theorem Tidy.tail {t : Token} {ts : List Token} (h : Tidy (t :: ts)) : Tidy ts :=
  ⟨fun t' ht' => h.clean t' (List.mem_cons_of_mem _ ht'), h.apart.tail⟩

/-! ### The text of one token -/

/-- A text that is quiet at its start goes on no quotes. -/
theorem head?_ne_closing {rest : List Char} (h : ∀ c ∈ rest.head?, isQuietChar c)
    (quote : Quote) : rest.head? ≠ some quote.closing := by
  intro hhead
  have hquiet := h _ hhead
  cases quote <;> exact absurd hquiet (by decide)

/-- A token without quotes is outside of them as a whole. -/
theorem Token.outside_of_quoted {t : Token} (h : t.quoted = []) :
    t.outside = (t.text .tsql).toList := by
  cases t with
  | identifier name => cases h
  | qualified schema name => cases schema <;> cases h
  | string s => cases h
  | date text => cases h
  | _ => rfl

/-- What a clean token writes outside of quotes is quiet. -/
theorem Token.IsClean.outside {t : Token} (h : t.IsClean) : IsQuiet t.outside := by
  have hpoint : IsQuiet ['.'] := by decide
  have hmark : IsQuiet ['N'] := by decide
  cases t with
  | identifier name => exact Text.isQuiet_nil
  | qualified schema name =>
    cases schema with
    | none => exact Text.isQuiet_nil
    | some schema => exact hpoint
  | string s =>
    simp only [Token.outside]
    split
    · exact Text.isQuiet_nil
    · exact hmark
  | date text => exact Text.isQuiet_nil
  | _ => exact h

/-- A date has nothing to double. -/
theorem text_date {text : String} (h : IsQuiet text.toList) :
    (Token.date text).text .tsql = enclose '\'' '\'' text := by
  have hnone : '\'' ∉ text.toList := fun hmem => absurd (h _ hmem) (by decide)
  unfold enclose
  rw [Text.double_eq_self hnone, ← String.toList_inj]
  simp [Token.text, Dialect.tsql]

theorem scan_bracketed (name : String) {rest : List Char}
    (h : ∀ c ∈ rest.head?, isQuietChar c) :
    scan .plain ((enclose '[' ']' name).toList ++ rest) =
      (scan .plain rest).after [(.bracket, name)] [] :=
  scan_enclose .bracket name (head?_ne_closing h .bracket)

theorem scan_string (s : String) {rest : List Char} (h : ∀ c ∈ rest.head?, isQuietChar c) :
    scan .plain ((enclose '\'' '\'' s).toList ++ rest) =
      (scan .plain rest).after [(.apostrophe, s)] [] :=
  scan_enclose .apostrophe s (head?_ne_closing h .apostrophe)

/-- The schema of a table ends in front of the point, and the name after it. -/
theorem scan_qualified (schema name : String) {rest : List Char}
    (h : ∀ c ∈ rest.head?, isQuietChar c) :
    scan .plain ((enclose '[' ']' schema ++ "." ++ enclose '[' ']' name).toList ++ rest) =
      (scan .plain rest).after [(.bracket, schema), (.bracket, name)] ['.'] := by
  have hquiet : IsQuiet ['.'] := by decide
  have hpoint : ∀ c ∈ (['.'] ++ ((enclose '[' ']' name).toList ++ rest)).head?, isQuietChar c := by
    simp [isQuietChar]
  have hdot : ".".toList = ['.'] := rfl
  rw [String.toList_append, String.toList_append, List.append_assoc, List.append_assoc, hdot,
    scan_bracketed schema hpoint, scan_quiet hquiet, scan_bracketed name h]
  simp

/-- The mark of a national string is quiet text before its quotes. -/
theorem scan_nationalString (s : String) {rest : List Char}
    (h : ∀ c ∈ rest.head?, isQuietChar c) :
    scan .plain ((Dialect.nationalString s).toList ++ rest) =
      (scan .plain rest).after [(.apostrophe, s)] (Token.string s).outside := by
  unfold Dialect.nationalString Token.outside
  simp only
  split
  · exact scan_string s h
  · have hquiet : IsQuiet ['N'] := by decide
    have hmark : "N".toList = ['N'] := rfl
    rw [String.toList_append, List.append_assoc, hmark, scan_quiet hquiet, scan_string s h]
    simp

/-- The text of a clean token, in front of a text that goes on no quotes: the scanner reads what
the token has in quotes and what it has outside of them. -/
theorem scan_text {t : Token} (h : t.IsClean) {rest : List Char}
    (hrest : t.quoted = [] ∨ ∀ c ∈ rest.head?, isQuietChar c) :
    scan .plain ((t.text .tsql).toList ++ rest) =
      (scan .plain rest).after t.quoted t.outside := by
  by_cases hquoted : t.quoted = []
  · have hquiet := h.outside
    rw [Token.outside_of_quoted hquoted] at hquiet ⊢
    rw [scan_quiet hquiet, hquoted]
  · have hopen := hrest.resolve_left hquoted
    cases t with
    | identifier name => exact scan_bracketed name hopen
    | qualified schema name =>
      cases schema with
      | none => exact scan_bracketed name hopen
      | some schema => exact scan_qualified schema name hopen
    | string s => exact scan_nationalString s hopen
    | date text =>
      rw [text_date h]
      exact scan_string text hopen
    | _ => exact absurd rfl hquoted

/-! ### The text of tidy tokens -/

/-- A token of fixed text has no quotes. -/
theorem Token.quoted_of_isFixed {t : Token} (h : t.isFixed) : t.quoted = [] := by
  cases t with
  | identifier | qualified | string | date => cases h
  | _ => rfl

/-- A token of fixed text is quiet and has a text at all. -/
theorem Token.text_of_isFixed {t : Token} (h : t.isFixed) :
    t.text .tsql ≠ "" ∧ IsQuiet (t.text .tsql).toList := by
  cases t with
  | keyword k => cases k <;> decide
  | comma | dot | star | leftParen | rightParen | eq | ne | lt | gt | le | ge | plus | minus
  | times | divide | modulo | concat | space | newline => decide
  | _ => cases h

theorem Token.isClean_of_isFixed {t : Token} (h : t.isFixed) : t.IsClean := by
  have hquiet := (text_of_isFixed h).2
  cases t with
  | identifier | qualified | string | date => cases h
  | _ => exact hquiet

/-- Tokens as characters. -/
theorem toList_render_cons (t : Token) (ts : List Token) :
    (render .tsql (t :: ts)).toList = (t.text .tsql).toList ++ (render .tsql ts).toList := by
  simp [render]

/-- The text of tokens starts quietly where it starts with a token of fixed text. -/
theorem quiet_head?_render {ts : List Token} (h : ∀ t ∈ ts.head?, t.isFixed) :
    ∀ c ∈ (render .tsql ts).toList.head?, isQuietChar c := by
  intro c hc
  cases ts with
  | nil => simp [render] at hc
  | cons t ts =>
    obtain ⟨hne, hquiet⟩ := Token.text_of_isFixed (h t rfl)
    rw [toList_render_cons] at hc
    cases htext : (t.text .tsql).toList with
    | nil => exact absurd (String.toList_eq_nil_iff.1 htext) hne
    | cons first text =>
      rw [htext] at hc hquiet
      cases hc
      exact (Text.isQuiet_cons.1 hquiet).1

/-- The text of tidy tokens: the scanner ends outside of quotes and has read what the tokens have
in quotes and what they have outside of them. -/
theorem scan_render_eq {ts : List Token} (h : Tidy ts) :
    scan .plain (render .tsql ts).toList =
      ⟨.plain, ts.flatMap Token.quoted, ts.flatMap Token.outside⟩ := by
  induction ts with
  | nil => simp [render, scan]
  | cons t ts ih =>
    -- what follows a token with quotes goes on none of them
    have hopen : t.quoted = [] ∨ ∀ c ∈ (render .tsql ts).toList.head?, isQuietChar c := by
      by_cases hquoted : t.quoted = []
      · exact .inl hquoted
      · have hfixed := (List.isChain_cons.1 h.apart).1
        exact .inr (quiet_head?_render fun t' ht' => (hfixed t' ht').resolve_left hquoted)
    rw [toList_render_cons, scan_text (h.clean t (by simp)) hopen, ih h.tail]
    rfl

/-- No statement ends outside of the quotes of tidy tokens. -/
theorem scan_render {ts : List Token} (h : Tidy ts) :
    ∃ plain, ';' ∉ plain ∧
      scan .plain (render .tsql ts).toList = ⟨.plain, ts.flatMap Token.quoted, plain⟩ := by
  refine ⟨_, ?_, scan_render_eq h⟩
  intro hmem
  obtain ⟨t, ht, hmem⟩ := List.mem_flatMap.1 hmem
  exact absurd ((h.clean t ht).outside _ hmem) (by decide)

/-! ## Lists of tidy tokens -/

section Tidy

variable {xs ys : List Token} {t : Token}

@[simp]
theorem tidy_nil : Tidy [] :=
  ⟨by simp, .nil⟩

@[simp]
theorem tidy_singleton : Tidy [t] ↔ t.IsClean :=
  ⟨fun h => h.clean t (by simp), fun h => ⟨by simpa using h, .singleton _⟩⟩

/-- Tokens after a token without quotes. -/
theorem Tidy.cons (h : t.IsClean) (hquoted : t.quoted = []) (hxs : Tidy xs) :
    Tidy (t :: xs) := by
  refine ⟨?_, ?_⟩
  · intro t' ht'
    rcases List.mem_cons.1 ht' with rfl | ht'
    · exact h
    · exact hxs.clean t' ht'
  · exact List.isChain_cons.2 ⟨fun _ _ => .inl hquoted, hxs.apart⟩

/-- Two lists, of which the second starts with a token of fixed text. -/
theorem Tidy.append (hxs : Tidy xs) (hys : Tidy ys) (h : ∀ t ∈ ys.head?, t.isFixed) :
    Tidy (xs ++ ys) := by
  refine ⟨?_, ?_⟩
  · intro t ht
    rcases List.mem_append.1 ht with ht | ht
    · exact hxs.clean t ht
    · exact hys.clean t ht
  · exact List.isChain_append.2 ⟨hxs.apart, hys.apart, fun _ _ t' ht' => .inr (h t' ht')⟩

@[simp]
theorem tidy_cons_of_isFixed (h : t.isFixed) : Tidy (t :: xs) ↔ Tidy xs :=
  ⟨Tidy.tail, .cons (Token.isClean_of_isFixed h) (Token.quoted_of_isFixed h)⟩

/-- A token of fixed text keeps what is before it and what is after it apart. -/
@[simp]
theorem tidy_append_cons_of_isFixed (h : t.isFixed) :
    Tidy (xs ++ t :: ys) ↔ Tidy xs ∧ Tidy ys := by
  constructor
  · intro hall
    obtain ⟨hx, hy, -⟩ := List.isChain_append.1 hall.apart
    have hxs : Tidy xs := ⟨fun t' ht' => hall.clean t' (List.mem_append_left _ ht'), hx⟩
    have hys : Tidy (t :: ys) := ⟨fun t' ht' => hall.clean t' (List.mem_append_right _ ht'), hy⟩
    exact ⟨hxs, hys.tail⟩
  · rintro ⟨hxs, hys⟩
    exact hxs.append ((tidy_cons_of_isFixed h).2 hys) (by simpa using h)

end Tidy

end TransactSql.Sql
