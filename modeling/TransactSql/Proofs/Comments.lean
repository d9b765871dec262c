import TransactSql.Proofs.Quoting

/-!
# No comment in a statement

Two dashes, or a slash and a star, open a comment where they stand outside of quotes, and what
comes after them is lost. Dashes come from several sources: the operator between two operands, the
sign in front of one, and the signs of numbers and of their exponents.

A text is calm when it opens no comment and does not end in a character that could open one with
whatever comes next, so calm texts stay calm in any order. An operator is calm together with the
blanks around it. The sign in front of an operand is calm together with the operand, since an
operand that could start with a dash is in parentheses. So the text of a compiled statement is
calm outside of quotes (`no_comment_in_sql`).
-/

namespace TransactSql

open Sql (Expr scan)

namespace Text

/-! ## Calm text -/

/-- What opens a comment: two dashes, or a slash and a star. -/
def commentSigns : List (List Char) :=
  [['-', '-'], ['/', '*']]

/-- A text that opens no comment, neither by itself nor with what comes after it. -/
structure IsCalm (s : List Char) : Prop where
  apart : s.IsChain fun c next => [c, next] ∉ commentSigns
  last : ∀ c ∈ s.getLast?, c ≠ '-' ∧ c ≠ '/'

-- the last character is tested by a Boolean function, so that deciding goes through no other ones
theorem isCalm_iff {s : List Char} :
    IsCalm s ↔ (s.IsChain fun c next => [c, next] ∉ commentSigns) ∧
      s.getLast?.all fun c => c != '-' && c != '/' := by
  simp only [Option.all_eq_true, Bool.and_eq_true, bne_iff_ne]
  exact ⟨fun h => ⟨h.apart, h.last⟩, fun h => ⟨h.1, h.2⟩⟩

instance (s : List Char) : Decidable (IsCalm s) :=
  decidable_of_iff' _ isCalm_iff

variable {s t : List Char}

/-- A calm text has no sign of a comment in it. -/
theorem IsCalm.not_infix (h : IsCalm s) {sign : List Char} (hsign : sign ∈ commentSigns) :
    ¬ sign <:+: s := by
  intro hinfix
  have hpair := h.apart.infix hinfix
  simp only [commentSigns, List.mem_cons, List.not_mem_nil, or_false] at hsign
  rcases hsign with rfl | rfl <;> simp [commentSigns] at hpair

theorem isCalm_nil : IsCalm [] := by
  decide

theorem IsCalm.append (hs : IsCalm s) (ht : IsCalm t) : IsCalm (s ++ t) where
  apart := by
    -- where the texts meet, the first one does not end in what starts a sign
    refine List.isChain_append.2 ⟨hs.apart, ht.apart, fun c hc next _ => ?_⟩
    simp [commentSigns, hs.last c hc]
  last c hc := by
    rw [List.getLast?_append, Option.mem_def, Option.or_eq_some_iff] at hc
    rcases hc with hc | ⟨-, hc⟩
    · exact ht.last c hc
    · exact hs.last c hc

/-- A dash in front of a text that starts with another character. -/
theorem IsCalm.dash (h : IsCalm s) {first : Char} (hhead : s.head? = some first)
    (hfirst : first ≠ '-') : IsCalm ('-' :: s) := by
  cases s with
  | nil => cases hhead
  | cons c rest =>
    cases hhead
    refine ⟨List.isChain_cons_cons.2 ⟨?_, h.apart⟩, ?_⟩
    · simp [commentSigns, hfirst]
    · rw [List.getLast?_cons_cons]
      exact h.last

theorem IsBare.isCalm (h : IsBare s) : IsCalm s := by
  induction s with
  | nil => exact isCalm_nil
  | cons c rest ih =>
    have hrest : IsBare rest := (isBare_cons.1 h).2
    have hc : IsCalm [c] := by
      refine ⟨.singleton c, ?_⟩
      intro c' hc'
      cases hc'
      exact ⟨h.ne (by simp) rfl, h.ne (by simp) rfl⟩
    exact hc.append (ih hrest)

/-! ### Numbers and types -/

/-- A dash in front of a text that is bare at its start. -/
theorem IsBare.dash (hs : IsBare s) (hne : s ≠ []) (ht : IsCalm t) : IsCalm ('-' :: (s ++ t)) := by
  cases s with
  | nil => exact absurd rfl hne
  | cons c rest => exact (hs.isCalm.append ht).dash rfl (hs.ne (by simp) rfl)

theorem isCalm_toDigits (n : Nat) : IsCalm (Nat.toDigits 10 n) :=
  (isBare_toDigits n).isCalm

/-- A dash in front of the digits of a number. -/
theorem isCalm_dash_toDigits (n : Nat) : IsCalm ('-' :: Nat.toDigits 10 n) := by
  have hdash := (isBare_toDigits n).dash Nat.toDigits_ne_nil isCalm_nil
  rwa [List.append_nil] at hdash

theorem isCalm_intText (n : Int) : IsCalm (toString n).toList := by
  rw [Int.toString_eq_repr, Int.repr_eq_if]
  split
  · exact (isBare_natText _).isCalm
  · have hdigits : (-n).toNat.repr.toList = Nat.toDigits 10 (-n).toNat := String.toList_ofList
    rw [String.toList_append, hdigits]
    exact isCalm_dash_toDigits _

end Text

open Text

namespace Decimal

theorem plainText_ne_nil (layout : Layout) (d : Digits) : plainText layout d ≠ [] := by
  unfold plainText
  split
  · simp
  · cases d.digits <;> simp [List.replicate_succ]

/-- A decimal with an exponent is bare up to the sign of the exponent. -/
theorem scientificText_split (layout : Layout) {d : Digits} (h : IsBare d.digits) :
    ∃ lead exponent, IsBare lead ∧ lead ≠ [] ∧ IsCalm exponent ∧
      scientificText layout d = lead ++ exponent := by
  obtain ⟨mantissa, sign, hmantissa, hsign, htext⟩ := scientificText_eq layout h
  have hlead : IsBare (mantissa ++ ['e']) :=
    isBare_append.2 ⟨hmantissa, isBare_cons.2 ⟨rfl, isBare_nil⟩⟩
  have hexponent : IsCalm (sign ++ Nat.toDigits 10 d.exponent.natAbs) := by
    rcases hsign with rfl | rfl | rfl
    · exact isCalm_toDigits _
    · exact isCalm_dash_toDigits _
    · exact IsCalm.append (by decide) (isCalm_toDigits _)
  refine ⟨_, _, hlead, by simp, hexponent, ?_⟩
  rw [htext, List.append_assoc, List.singleton_append]

/-- Without its sign, a number is bare up to the sign of its exponent. -/
theorem magnitude_split (layout : Layout) (x : Binary64) :
    ∃ lead exponent, IsBare lead ∧ lead ≠ [] ∧ IsCalm exponent ∧
      (if x.isZero then '0' :: fractionText layout []
        else if layout.plain (shortest x).exponent then plainText layout (shortest x)
        else scientificText layout (shortest x)) = lead ++ exponent := by
  have hdigits := isBare_shortest x
  split
  · have hzero : IsBare ('0' :: fractionText layout []) :=
      isBare_cons.2 ⟨rfl, isBare_fractionText layout isBare_nil⟩
    exact ⟨_, [], hzero, by simp, isCalm_nil, (List.append_nil _).symm⟩
  · split
    · exact ⟨_, [], isBare_plainText layout hdigits, plainText_ne_nil layout _, isCalm_nil,
        (List.append_nil _).symm⟩
    · exact scientificText_split layout hdigits

/-- A number in any layout. -/
theorem isCalm_render (layout : Layout) (x : Binary64) : IsCalm (layout.render x).toList := by
  obtain ⟨lead, exponent, hlead, hne, hexponent, htext⟩ := magnitude_split layout x
  unfold Layout.render
  simp only [String.toList_ofList]
  rw [htext]
  split
  · exact hlead.dash hne hexponent
  · exact hlead.isCalm.append hexponent

end Decimal

theorem NativeType.isCalm_sql (type : NativeType) : IsCalm type.sql.toList := by
  cases type with
  | decimal precision scale =>
    unfold NativeType.sql
    simp only [String.toList_append]
    have hnumber : ∀ n : Nat, IsCalm (toString n).toList := fun n => (isBare_natText n).isCalm
    have hlead : IsCalm "DECIMAL(".toList := by decide
    have hcomma : IsCalm ", ".toList := by decide
    have hend : IsCalm ")".toList := by decide
    exact (((hlead.append (hnumber _)).append hcomma).append (hnumber _)).append hend
  | _ => decide

theorem DatePart.isCalm_name (part : DatePart) : IsCalm part.name.toList := by
  cases part <;> decide

/-! ## Calm tokens -/

namespace Sql

/-- Tokens whose text outside of quotes is calm. -/
def Calm (ts : List Token) : Prop :=
  IsCalm (ts.flatMap Token.outside)

instance (ts : List Token) : Decidable (Calm ts) :=
  inferInstanceAs (Decidable (IsCalm _))

section Calm

variable {xs ys : List Token} {t : Token}

theorem calm_nil : Calm [] :=
  isCalm_nil

theorem Calm.append (hxs : Calm xs) (hys : Calm ys) : Calm (xs ++ ys) := by
  unfold Calm
  rw [List.flatMap_append]
  exact IsCalm.append hxs hys

theorem Calm.cons (ht : IsCalm t.outside) (hxs : Calm xs) : Calm (t :: xs) :=
  IsCalm.append ht hxs

theorem calm_singleton (ht : IsCalm t.outside) : Calm [t] :=
  .cons ht calm_nil

theorem Calm.flatMap {α : Type} {f : α → List Token} {as : List α} (h : ∀ a ∈ as, Calm (f a)) :
    Calm (as.flatMap f) := by
  induction as with
  | nil => exact calm_nil
  | cons a as ih =>
    rw [List.flatMap_cons]
    exact (h a (by simp)).append (ih fun b hb => h b (List.mem_cons_of_mem _ hb))

theorem calm_intercalate {separator : List Token} {lists : List (List Token)}
    (hseparator : Calm separator) (h : ∀ ts ∈ lists, Calm ts) :
    Calm (List.intercalate separator lists) :=
  intercalate_of_forall calm_nil (fun hxs hys => hxs.append (hseparator.append hys)) h

theorem calm_commaSeparated {lists : List (List Token)} (h : ∀ ts ∈ lists, Calm ts) :
    Calm (commaSeparated lists) :=
  calm_intercalate (by decide) h

end Calm

/-! ### Expressions -/

theorem calm_identifier (name : String) : Calm [.identifier name] :=
  calm_singleton isCalm_nil

theorem calm_qualifier (table : Option String) : Calm (qualifier table) := by
  cases table with
  | none => exact calm_nil
  | some table =>
    have hdot : Calm [.dot] := by decide
    exact (calm_identifier table).append hdot

theorem isCalm_int (n : Int64) : IsCalm (Token.int n).outside :=
  isCalm_intText n.toInt

/-- An operator with the blanks around it. -/
theorem calm_operator (op : BinaryOp) : Calm [.space, op.token, .space] := by
  cases op <;> decide

theorem calm_paren {x : Expr} (h : Calm x.tokens) : Calm (Expr.paren x).tokens := by
  have hopening : Calm [.leftParen] := by decide
  have hclosing : Calm [.rightParen] := by decide
  exact (hopening.append h).append hclosing

theorem calm_binary {x y : Expr} (op : BinaryOp) (hx : Calm x.tokens) (hy : Calm y.tokens) :
    Calm (Expr.binary x op y).tokens :=
  (hx.append (calm_operator op)).append hy

theorem calm_nested {x : Expr} (h : Calm x.tokens) : Calm x.nested.tokens := by
  unfold Expr.nested
  split
  · exact calm_paren h
  · exact calm_paren h
  · exact h

theorem calm_conjunct {x : Expr} (h : Calm x.tokens) : Calm x.conjunct.tokens := by
  unfold Expr.conjunct
  split
  · exact calm_paren h
  · exact h

theorem calm_function {name : String} {args : List Expr} (hname : IsPlainName name)
    (h : ∀ a ∈ args, Calm a.tokens) : Calm (Expr.function name args).tokens := by
  have hargs := calm_commaSeparated (forall_tokensOfList h)
  have hlead : Calm [.functionName name, .leftParen] :=
    .cons (isBare_upper hname).isCalm (by decide)
  have hclosing : Calm [.rightParen] := by decide
  exact ((hlead.append calm_nil).append hargs).append hclosing

theorem calm_cast {x : Expr} (h : Calm x.tokens) (type : NativeType) :
    Calm (Expr.cast x type.sql).tokens := by
  have hlead : Calm [.keyword .CAST, .leftParen] := by decide
  have has : Calm [.space, .keyword .AS, .space] := by decide
  have htype : Calm [.typeName type.sql, .rightParen] := .cons type.isCalm_sql (by decide)
  exact (hlead.append h).append (has.append htype)

theorem calm_caseWhen {c x y : Expr} (hc : Calm c.tokens) (hx : Calm x.tokens)
    (hy : Calm y.tokens) : Calm (Expr.caseWhen c x y).tokens := by
  have hcase : Calm [.keyword .CASE] := by decide
  have hwhen : Calm [.space, .keyword .WHEN, .space] := by decide
  have hthen : Calm [.space, .keyword .THEN, .space] := by decide
  have helse : Calm [.space, .keyword .ELSE, .space] := by decide
  have hend : Calm [.space, .keyword .END] := by decide
  have hbranch := (((hwhen.append hc).append hthen).append hx).append calm_nil
  exact ((hcase.append hbranch).append (helse.append hy)).append hend

/-- Membership in a list, which is a comparison of constants where the list is empty. -/
theorem calm_isIn {x : Expr} {values : List Expr} (negated : Bool) (hx : Calm x.tokens)
    (h : ∀ v ∈ values, Calm v.tokens) : Calm (Expr.isIn x values negated).tokens := by
  cases values with
  | nil =>
    rw [Expr.tokens]
    cases negated <;> decide
  | cons v values =>
    have hvalues := calm_commaSeparated (forall_tokensOfList h)
    have hnot : Calm (if negated then [.space, .keyword .NOT] else []) := by
      cases negated <;> decide
    have hin : Calm [.space, .keyword .IN, .space, .leftParen] := by decide
    have hclosing : Calm [.rightParen] := by decide
    exact (((hx.append hnot).append hin).append hvalues).append hclosing

theorem calm_literal {l : Literal} (h : l.IsWritten) : Calm (Expr.literal l).tokens := by
  refine calm_singleton ?_
  cases l with
  | int n => exact isCalm_int n
  | float x =>
    have htext : floatText x = floatLayout.render x := if_pos h
    show IsCalm (floatText x).toList
    rw [htext]
    exact Decimal.isCalm_render floatLayout x
  | string s =>
    simp only [Literal.token, Token.outside]
    split
    · exact isCalm_nil
    · have hmark : IsCalm ['N'] := by decide
      exact hmark
  | bool b => cases b <;> decide
  | date text => exact isCalm_nil
  | null => decide

theorem calm_param {name : String} (h : isParamName name) : Calm (Expr.param name).tokens := by
  have hat : IsCalm "@".toList := by decide
  refine calm_singleton ?_
  show IsCalm ("@" ++ name).toList
  rw [String.toList_append]
  exact hat.append (isBare_paramName h).isCalm

/-! ### The operand of a minus sign -/

/-- What an expression writes outside of quotes starts with another character than a dash. -/
def StartsClear (x : Expr) : Prop :=
  ∃ first, (x.tokens.flatMap Token.outside).head? = some first ∧ first ≠ '-'

theorem startsClear_paren (x : Expr) : StartsClear (.paren x) :=
  ⟨'(', rfl, by decide⟩

theorem startsClear_param (name : String) : StartsClear (.param name) := by
  refine ⟨'@', ?_, by decide⟩
  simp [Expr.tokens, Token.outside, Token.text, Dialect.tsql]

/-- A call starts with the name of the function, or with its parenthesis. -/
theorem startsClear_function {name : String} (hname : IsPlainName name) (args : List Expr) :
    StartsClear (.function name args) := by
  have hbare := isBare_upper hname
  have htokens : ∃ rest, (Expr.function name args).tokens.flatMap Token.outside =
      (Text.upper name).toList ++ '(' :: rest := ⟨_, rfl⟩
  obtain ⟨rest, htokens⟩ := htokens
  unfold StartsClear
  rw [htokens]
  cases hupper : (Text.upper name).toList with
  | nil => exact ⟨'(', rfl, by decide⟩
  | cons c upper =>
    rw [hupper] at hbare
    exact ⟨c, rfl, hbare.ne (by simp) rfl⟩

end Sql

/-- The operands that are left without parentheses start with no dash: a column starts with its
table, which has a name in a lowered expression. -/
theorem Lowered.startsClear {x : Expr} (h : Lowered .value x) :
    Sql.StartsClear (Lower.minusOperand x) := by
  cases h with
  | column tableAlias name => exact ⟨'.', rfl, by decide⟩
  | @param name h => exact Sql.startsClear_param name
  | function hname _ => exact Sql.startsClear_function hname _
  | datePart part _ => exact Sql.startsClear_function (by decide) _
  | _ => exact Sql.startsClear_paren _

namespace Sql

theorem calm_minusOperand {x : Expr} (h : Calm x.tokens) :
    Calm (Lower.minusOperand x).tokens := by
  unfold Lower.minusOperand
  split
  · exact h
  · exact h
  · exact h
  · exact calm_paren h

/-- A minus sign in front of an operand. -/
theorem calm_minus {x : Expr} (h : Calm x.tokens) (hstart : StartsClear x) :
    Calm (Expr.unary .minus x).tokens := by
  obtain ⟨first, hhead, hfirst⟩ := hstart
  exact IsCalm.dash h hhead hfirst

end Sql

/-- The tokens of a lowered expression are calm. -/
theorem Lowered.calm {role : Role} {x : Expr} (h : Lowered role x) : Sql.Calm x.tokens := by
  induction h with
  | column tableAlias name =>
    exact (Sql.calm_qualifier (some tableAlias)).append (Sql.calm_identifier name)
  | literal h => exact Sql.calm_literal h
  | param h => exact Sql.calm_param h
  | cast _ type ih => exact Sql.calm_cast ih type
  | function hname _ ih => exact Sql.calm_function hname ih
  | datePart part _ ih =>
    have hpart : Sql.Calm (Expr.raw part.name).tokens := Sql.calm_singleton part.isCalm_name
    refine Sql.calm_function (by decide) ?_
    simp [hpart, ih]
  | caseWhen _ _ _ ihc ihx ihy => exact Sql.calm_caseWhen ihc ihx ihy
  | @arithmetic op _ _ _ _ _ ihx ihy | @comparison op _ _ _ _ _ ihx ihy
  | @connective op _ _ _ _ _ ihx ihy =>
    exact Sql.calm_binary op (Sql.calm_nested ihx) (Sql.calm_nested ihy)
  | minus hx ih => exact Sql.calm_minus (Sql.calm_minusOperand ih) hx.startsClear
  | negation _ ih =>
    have hnot : Sql.Calm [.keyword .NOT, .space] := by decide
    exact hnot.append (Sql.calm_paren ih)
  | membership negated _ _ ihx ihvalues =>
    exact Sql.calm_isIn negated (Sql.calm_nested ihx) ihvalues
  | nullTest _ ih =>
    have hnull : Sql.Calm [.space, .keyword .IS_NULL] := by decide
    exact (Sql.calm_nested ih).append hnull

/-- Calm tokens are a property of clauses. -/
theorem clauseProperty_calm : ClauseProperty fun _ x => Sql.Calm x.tokens where
  lowered h := h.calm
  conjoined hx hy := Sql.calm_binary .and (Sql.calm_conjunct hx) (Sql.calm_conjunct hy)
  nested hx hy := Sql.calm_binary .and (Sql.calm_nested hx) (Sql.calm_nested hy)

/-! ## Statements -/

namespace Sql

theorem calm_alias (asName : Option String) : Calm (aliasTokens asName) := by
  cases asName with
  | none => exact calm_nil
  | some name =>
    have has : Calm [.space, .keyword .AS, .space] := by decide
    exact has.append (calm_identifier name)

theorem calm_clause (k : Keyword) {ts : List Token} (h : Calm ts) : Calm (clause k ts) := by
  have hlead : Calm [.newline, .keyword k, .space] := by cases k <;> decide
  exact hlead.append h

theorem calm_tableRef (t : TableRef) : Calm t.tokens := by
  have hpoint : IsCalm ['.'] := by decide
  have hname : IsCalm (Token.qualified t.schema t.table).outside := by
    cases t.schema with
    | none => exact isCalm_nil
    | some schema => exact hpoint
  exact .cons hname (calm_alias t.asName)

/-- An item, which is a value or stands for all columns of a table. -/
theorem calm_selectItem {item : SelectItem}
    (h : (∃ table, item.expr = .star (some table)) ∨ Calm item.expr.tokens) :
    Calm item.tokens := by
  have hexpr : Calm item.expr.tokens := by
    rcases h with ⟨table, hstar⟩ | h
    · have hall : Calm [.star] := by decide
      rw [hstar]
      exact (calm_qualifier (some table)).append hall
    · exact h
  exact hexpr.append (calm_alias item.asName)

theorem calm_items {items : List SelectItem} (h : ∀ item ∈ items, Calm item.tokens) :
    Calm (Select.itemTokens items) := by
  unfold Select.itemTokens
  split
  · exact calm_nil
  · have hlead : Calm [.newline, .indent 1] := by decide
    refine hlead.append (calm_intercalate (by decide) ?_)
    intro ts hts
    obtain ⟨item, hitem, rfl⟩ := List.mem_map.1 hts
    exact h item hitem

theorem calm_join {j : JoinClause} (h : ∀ c ∈ j.condition, Calm c.tokens) :
    Calm (.newline :: j.tokens) := by
  obtain ⟨type, table, condition⟩ := j
  have hline : Calm [.newline] := by decide
  have htype : Calm type.tokens := by cases type <;> decide
  have hjoin : Calm [.space, .keyword .JOIN, .space] := by decide
  have hon : Calm [.space, .keyword .ON, .space] := by decide
  have htrue : Calm [.int 1, .space, .eq, .space, .int 1] := by decide
  refine hline.append ((((htype.append hjoin).append (calm_tableRef table)).append hon).append ?_)
  cases condition with
  | none => exact htrue
  | some c => exact h c rfl

theorem calm_order {s : Select} (h : ∀ o ∈ s.orderBy, Calm o.expr.tokens) :
    Calm (s.orderTokens .tsql) := by
  unfold Select.orderTokens
  split
  · refine calm_clause _ (calm_commaSeparated ?_)
    intro ts hts
    obtain ⟨o, ho, rfl⟩ := List.mem_map.1 hts
    have hdirection : Calm [.space, .keyword (if o.descending then .DESC else .ASC)] := by
      cases o.descending <;> decide
    exact (h o ho).append hdirection
  · split
    · exact calm_clause _ (by decide)
    · exact calm_nil

theorem calm_offsetFetch (limit offset : Option UInt64) : Calm (offsetFetch limit offset) := by
  have hcount : ∀ n : UInt64, Calm [rowCount n] := fun n => calm_singleton (isCalm_int n.toInt64)
  have hoffset : Calm [.keyword .OFFSET, .space] := by decide
  have hrows : Calm [.space, .keyword .ROWS] := by decide
  have hskipped := (hoffset.append (hcount (offset.getD 0))).append hrows
  unfold offsetFetch
  cases limit with
  | none => exact hskipped.append calm_nil
  | some n =>
    have hfetch : Calm [.space, .keyword .FETCH, .space, .keyword .NEXT, .space] := by decide
    have honly : Calm [.space, .keyword .ROWS, .space, .keyword .ONLY] := by decide
    exact hskipped.append ((hfetch.append (hcount n)).append honly)

/-- The tokens of a statement are calm when those of its expressions are. -/
theorem calm_select {s : Select} (h : s.Clauses fun _ x => Calm x.tokens) :
    Calm (s.tokens .tsql) := by
  have hselect : Calm [.keyword .SELECT] := by decide
  have hitems : Calm (Select.itemTokens s.items) :=
    calm_items fun item hitem => calm_selectItem (h.items item hitem)
  unfold Select.tokens
  refine .append (.append (.append (.append (.append (.append (.append (hselect.append hitems)
    ?source) ?joins) ?condition) ?groupBy) ?having) (calm_order h.orderBy)) ?paging
  case source =>
    cases s.source with
    | none => exact calm_nil
    | some table => exact calm_clause _ (calm_tableRef table)
  case joins => exact .flatMap fun j hj => calm_join (h.on j hj)
  case condition =>
    cases hc : s.condition with
    | none => exact calm_nil
    | some c => exact calm_clause _ (h.condition c hc)
  case groupBy =>
    split
    · exact calm_nil
    · refine calm_clause _ (calm_commaSeparated ?_)
      intro ts hts
      obtain ⟨e, he, rfl⟩ := List.mem_map.1 hts
      exact h.groupBy e he
  case having =>
    cases hc : s.having with
    | none => exact calm_nil
    | some c => exact calm_clause _ (h.having c hc)
  case paging =>
    cases s.paging with
    | none => exact calm_nil
    | some page =>
      have hline : Calm [.newline] := by decide
      exact hline.append (calm_offsetFetch _ _)

/-- Outside of quotes the text of a compiled statement is calm. -/
theorem isCalm_plain_of_compile {query : Query} {params : Params} {c : Compiled}
    (h : compile query params = .ok c) : IsCalm (scan .plain c.sql.toList).plain := by
  have htidy := tidy_select (clauses_of_compile clauseProperty_tidy h)
  have hcalm := calm_select (clauses_of_compile clauseProperty_calm h)
  unfold Compiled.sql Select.sql
  rw [scan_render_eq htidy]
  exact hcalm

/-- Where a text is calm outside of quotes, a sign of a comment in it stands in quotes: scanning
what comes before the sign ends inside them. -/
theorem inside_of_sign {before sign after : List Char} (hsign : sign ∈ commentSigns)
    (h : IsCalm (scan .plain (before ++ sign ++ after)).plain) :
    ∃ quote read, (scan .plain before).mode = .inside quote read := by
  have hquiet : ∀ sign ∈ commentSigns, IsQuiet sign ∧ sign ≠ [] := by decide
  obtain ⟨hquiet, hne⟩ := hquiet sign hsign
  cases hmode : (scan .plain before).mode with
  | inside quote read => exact ⟨quote, read, rfl⟩
  | plain =>
    -- outside of quotes the sign would be read as it is
    have hhead : ∀ c ∈ (sign ++ after).head?, Text.isQuietChar c := by
      intro c hc
      cases sign with
      | nil => exact absurd rfl hne
      | cons first rest =>
        cases hc
        exact (isQuiet_cons.1 hquiet).1
    rw [List.append_assoc, scan_append (head?_ne_closing hhead) hmode, scan_quiet hquiet] at h
    refine absurd ?_ (h.not_infix hsign)
    exact ⟨(scan .plain before).plain, (scan .plain after).plain, List.append_assoc _ _ _⟩

end Sql

/-- No comment is opened in a compiled statement. What scanning finds outside of quotes has no sign
of a comment in it, and wherever such a sign stands in the text, quotes are open in front of it. -/
theorem no_comment_in_sql (query : Query) (params : Params) (c : Compiled)
    (h : compile query params = .ok c) :
    (∀ sign ∈ commentSigns, ¬ sign <:+: (scan .plain c.sql.toList).plain) ∧
    ∀ sign ∈ commentSigns, ∀ before after, c.sql.toList = before ++ sign ++ after →
      ∃ quote read, (scan .plain before).mode = .inside quote read := by
  have hcalm := Sql.isCalm_plain_of_compile h
  refine ⟨fun sign hsign => hcalm.not_infix hsign, ?_⟩
  intro sign hsign before after htext
  rw [htext] at hcalm
  exact Sql.inside_of_sign hsign hcalm

/-- Signs of every source next to operators, and names and strings that hold signs of comments. -/
theorem no_comment_in_sql_of_nested_signs :
    let minus : Scalar → Scalar := fun e => .apply .negate [e]
    let tiny : Scalar := .ofValue (.float ⟨0xBE7AD7F29ABCAF48⟩)
    let difference : Scalar := .apply .subtract [tiny, minus (minus (.ofValue (.int (-5))))]
    let position : Scalar := .find (.ofValue (.string "a--b")) (.ofValue (.string "/*"))
    let quotient : Scalar := .apply .divide [position, minus tiny]
    let query : Query := .relation (.selection (.table ⟨⟨none, "t--"⟩, []⟩)
      { projections := [⟨"/*", difference⟩, ⟨"n", quotient⟩] })
    ∃ c, compile query .empty = .ok c ∧
      c.sql = "SELECT\n  -1e-7 - (-(-(-5))) AS [/*],\n  " ++
        "(CHARINDEX('/*', 'a--b') - 1) / (-(-1e-7)) AS [n]\nFROM [t--] AS [t0]" ∧
      (∀ sign ∈ commentSigns, ¬ sign <:+: (scan .plain c.sql.toList).plain) ∧
      ∀ sign ∈ commentSigns, ∀ before after, c.sql.toList = before ++ sign ++ after →
        ∃ quote read, (scan .plain before).mode = .inside quote read := by
  intro minus tiny difference position quotient query
  have hc : ∃ c, compile query .empty = .ok c ∧
      c.sql = "SELECT\n  -1e-7 - (-(-(-5))) AS [/*],\n  " ++
        "(CHARINDEX('/*', 'a--b') - 1) / (-(-1e-7)) AS [n]\nFROM [t--] AS [t0]" :=
    ⟨_, rfl, by decide +kernel⟩
  obtain ⟨c, hc, htext⟩ := hc
  exact ⟨c, hc, htext, no_comment_in_sql _ _ _ hc⟩

end TransactSql
