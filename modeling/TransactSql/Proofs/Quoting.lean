import TransactSql.Proofs.Clauses
import TransactSql.Proofs.QuietText
import TransactSql.Proofs.Scanner

/-!
# Nothing escapes its quotes

Names and strings come from whoever writes a query, and a statement is sent as one text. A
scanner that sees this text alone finds in quotes exactly the identifiers, strings and dates of
the statement, in order, whatever characters they have: `scan_sql_of_compile`. So no name and no
string can end its quotes early, start others or begin a second statement.

This holds since the tokens of a compiled statement are tidy: lowering and writing put a token of
fixed text after everything that is quoted, and what is written without quotes is quiet.
-/

namespace TransactSql

open Sql (Expr Token BinaryOp Literal Select SelectItem TableRef JoinClause OrderItem Tidy
  commaSeparated scan scan_render)

namespace Sql

/-! ## Expressions -/

theorem isFixed_token (op : BinaryOp) : op.token.isFixed := by
  cases op <;> rfl

theorem isClean_int (n : Int64) : (Token.int n).IsClean :=
  Text.isQuiet_intText n.toInt

/-- What holds of each of some lists of tokens, and is kept where lists are joined by a separator,
holds of all of them with the separator between them. -/
theorem intercalate_of_forall {P : List Token → Prop} {separator : List Token}
    {lists : List (List Token)} (hnil : P [])
    (hjoin : ∀ {xs ys}, P xs → P ys → P (xs ++ (separator ++ ys)))
    (h : ∀ ts ∈ lists, P ts) : P (List.intercalate separator lists) := by
  induction lists with
  | nil => simpa using hnil
  | cons ts rest ih =>
    have hts := h ts (by simp)
    cases rest with
    | nil => simpa using hts
    | cons next rest =>
      have hrest := ih fun ts' hts' => h ts' (List.mem_cons_of_mem _ hts')
      rw [List.intercalate_cons_cons, List.append_assoc]
      exact hjoin hts hrest

theorem tidy_commaSeparated {lists : List (List Token)} (h : ∀ ts ∈ lists, Tidy ts) :
    Tidy (commaSeparated lists) := by
  refine intercalate_of_forall tidy_nil ?_ h
  intro xs ys hxs hys
  simp (disch := decide) [hxs, hys]

theorem forall_tokensOfList {P : List Token → Prop} {args : List Expr}
    (h : ∀ a ∈ args, P a.tokens) : ∀ ts ∈ Expr.tokensOfList args, P ts := by
  induction args with
  | nil => simp [Expr.tokensOfList]
  | cons a rest ih =>
    rw [Expr.tokensOfList, List.forall_mem_cons]
    exact ⟨h a (by simp), ih fun b hb => h b (List.mem_cons_of_mem _ hb)⟩

/-- A qualifier ends with a point, so anything can follow. -/
theorem tidy_qualifier (table : Option String) {ts : List Token} (h : Tidy ts) :
    Tidy (qualifier table ++ ts) := by
  cases table with
  | none => exact h
  | some table =>
    have htable : Tidy [.identifier table] := tidy_singleton.2 trivial
    exact (tidy_append_cons_of_isFixed rfl).2 ⟨htable, h⟩

@[simp]
theorem tidy_paren {x : Expr} : Tidy (Expr.paren x).tokens ↔ Tidy x.tokens := by
  simp (disch := decide) [Expr.tokens]

@[simp]
theorem tidy_binary {x y : Expr} {op : BinaryOp} :
    Tidy (Expr.binary x op y).tokens ↔ Tidy x.tokens ∧ Tidy y.tokens := by
  rw [Expr.tokens, List.append_assoc, List.cons_append, tidy_append_cons_of_isFixed rfl,
    List.cons_append, tidy_cons_of_isFixed (isFixed_token op), List.singleton_append,
    tidy_cons_of_isFixed rfl]

/-- Parentheses around an operand change nothing. -/
@[simp]
theorem tidy_nested {x : Expr} : Tidy x.nested.tokens ↔ Tidy x.tokens := by
  unfold Expr.nested
  split
  · exact tidy_paren
  · exact tidy_paren
  · rfl

@[simp]
theorem tidy_conjunct {x : Expr} : Tidy x.conjunct.tokens ↔ Tidy x.tokens := by
  unfold Expr.conjunct
  split
  · exact tidy_paren
  · rfl

@[simp]
theorem tidy_minusOperand {x : Expr} : Tidy (Lower.minusOperand x).tokens ↔ Tidy x.tokens := by
  unfold Lower.minusOperand
  split
  · rfl
  · rfl
  · rfl
  · exact tidy_paren

theorem tidy_function {name : String} {args : List Expr} (hname : IsPlainName name)
    (h : ∀ a ∈ args, Tidy a.tokens) : Tidy (Expr.function name args).tokens := by
  have hargs := tidy_commaSeparated (forall_tokensOfList h)
  have hclean : (Token.functionName name).IsClean := Text.isQuiet_upper hname
  refine Tidy.cons hclean rfl ?_
  simp (disch := decide) [hargs]

/-- Membership in a list, which is a comparison of constants where the list is empty. -/
theorem tidy_isIn {x : Expr} {values : List Expr} (negated : Bool) (hx : Tidy x.tokens)
    (h : ∀ v ∈ values, Tidy v.tokens) : Tidy (Expr.isIn x values negated).tokens := by
  cases values with
  | nil =>
    rw [Expr.tokens]
    cases negated <;> exact .cons (isClean_int 1) rfl (by simp (disch := decide) [isClean_int])
  | cons v values =>
    have hvalues := tidy_commaSeparated (forall_tokensOfList h)
    rw [Expr.tokensOfList] at hvalues
    cases negated <;> simp (disch := decide) [Expr.tokens, hx, hvalues]

/-- The token of a literal that is written for a value. -/
theorem isClean_literal {l : Literal} (h : l.IsWritten) : l.token.IsClean := by
  cases l with
  | int n => exact isClean_int n
  | float x =>
    have htext : floatText x = floatLayout.render x := if_pos h
    show Text.IsQuiet (floatText x).toList
    rw [htext]
    exact Decimal.isQuiet_render floatLayout x
  | string s => trivial
  | bool b =>
    show Text.IsQuiet ((Token.bool b).text .tsql).toList
    cases b <;> decide
  | date text =>
    obtain ⟨d, rfl⟩ := h
    exact d.isQuiet_text
  | null =>
    show Text.IsQuiet (Token.null.text .tsql).toList
    decide

end Sql

/-- The tokens of a lowered expression are tidy. -/
theorem Lowered.tidy {role : Role} {x : Expr} (h : Lowered role x) : Tidy x.tokens := by
  induction h with
  | column tableAlias name =>
    exact Sql.tidy_qualifier _ (Sql.tidy_singleton.2 trivial)
  | literal h => exact Sql.tidy_singleton.2 (Sql.isClean_literal h)
  | @param name h =>
    have hname : (Token.param name).IsClean := by
      show Text.IsQuiet ("@" ++ name).toList
      rw [String.toList_append, Text.isQuiet_append]
      exact ⟨by decide, Text.isQuiet_paramName h⟩
    exact Sql.tidy_singleton.2 hname
  | @cast x _ type ih =>
    have htype : Tidy (.typeName type.sql :: [.rightParen]) :=
      .cons type.isQuiet_sql rfl (by simp (disch := decide))
    simp (disch := decide) [Expr.tokens, ih, htype]
  | function hname _ ih => exact Sql.tidy_function hname ih
  | datePart part _ ih =>
    have hpart : Tidy (Expr.raw part.name).tokens := Sql.tidy_singleton.2 part.isQuiet_name
    refine Sql.tidy_function (by decide) ?_
    simp [hpart, ih]
  | caseWhen _ _ _ ihc ihx ihy =>
    simp (disch := decide) [Expr.caseWhen, Expr.tokens, Expr.tokensAfter, Expr.tokensOfBranches,
      ihc, ihx, ihy]
  | arithmetic _ _ _ ihx ihy => simp [ihx, ihy]
  | minus _ ih => simp (disch := decide) [Expr.tokens, ih]
  | comparison _ _ _ ihx ihy => simp [ihx, ihy]
  | connective _ _ _ ihx ihy => simp [ihx, ihy]
  | negation _ ih =>
    rw [Expr.tokens]
    simp (disch := decide) [ih]
  | membership negated _ _ ihx ihvalues =>
    exact Sql.tidy_isIn negated (Sql.tidy_nested.2 ihx) ihvalues
  | nullTest _ ih => simp (disch := decide) [Expr.tokens, ih]

/-- Tidy tokens are a property of clauses. -/
theorem clauseProperty_tidy : ClauseProperty fun _ x => Tidy x.tokens where
  lowered h := h.tidy
  conjoined hx hy := by simp [hx, hy]
  nested hx hy := by simp [hx, hy]

/-! ## Statements -/

namespace Sql

/-- Tidy tokens that can follow any others: they start with a token of fixed text. -/
structure Follows (ts : List Token) : Prop where
  tidy : Tidy ts
  head : ∀ t ∈ ts.head?, t.isFixed

namespace Follows

variable {xs ys : List Token}

theorem nil : Follows [] :=
  ⟨tidy_nil, by simp⟩

theorem cons {t : Token} (ht : t.isFixed) (h : Tidy xs) : Follows (t :: xs) :=
  ⟨(tidy_cons_of_isFixed ht).2 h, by simpa using ht⟩

theorem append (hxs : Follows xs) (hys : Follows ys) : Follows (xs ++ ys) := by
  refine ⟨hxs.tidy.append hys.tidy hys.head, ?_⟩
  cases xs with
  | nil => exact hys.head
  | cons t xs => exact hxs.head

theorem flatMap {α : Type} {f : α → List Token} {as : List α} (h : ∀ a ∈ as, Follows (f a)) :
    Follows (as.flatMap f) := by
  induction as with
  | nil => exact nil
  | cons a as ih =>
    rw [List.flatMap_cons]
    exact (h a (by simp)).append (ih fun b hb => h b (List.mem_cons_of_mem _ hb))

end Follows

theorem Tidy.follow {xs ys : List Token} (hxs : Tidy xs) (hys : Follows ys) : Tidy (xs ++ ys) :=
  hxs.append hys.tidy hys.head

theorem follows_alias (asName : Option String) : Follows (aliasTokens asName) := by
  cases asName with
  | none => exact .nil
  | some name =>
    have hname : Tidy [.identifier name] := tidy_singleton.2 trivial
    refine .cons rfl ?_
    simp (disch := decide) [hname]

theorem follows_clause (k : Keyword) {ts : List Token} (h : Tidy ts) : Follows (clause k ts) := by
  have hlead : Tidy (.keyword k :: .space :: ts) :=
    (tidy_cons_of_isFixed rfl).2 ((tidy_cons_of_isFixed rfl).2 h)
  exact .cons rfl hlead

theorem tidy_tableRef (t : TableRef) : Tidy t.tokens := by
  have hname : Tidy [.qualified t.schema t.table] := tidy_singleton.2 trivial
  exact hname.follow (follows_alias t.asName)

/-- An item, which is a value or stands for all columns of a table. -/
theorem tidy_selectItem {item : SelectItem}
    (h : (∃ table, item.expr = .star (some table)) ∨ Tidy item.expr.tokens) :
    Tidy item.tokens := by
  have hexpr : Tidy item.expr.tokens := by
    rcases h with ⟨table, hstar⟩ | h
    · rw [hstar]
      exact tidy_qualifier _ (by simp (disch := decide))
    · exact h
  exact hexpr.follow (follows_alias item.asName)

theorem follows_items {items : List SelectItem} (h : ∀ item ∈ items, Tidy item.tokens) :
    Follows (Select.itemTokens items) := by
  have hindent : ∀ {ts : List Token}, Tidy ts → Tidy (.indent 1 :: ts) :=
    fun hts => .cons (show Text.IsQuiet _ by decide) rfl hts
  unfold Select.itemTokens
  split
  · exact .nil
  · refine .cons rfl (hindent ?_)
    refine intercalate_of_forall tidy_nil ?_ ?_
    · intro xs ys hxs hys
      simp (disch := decide) [hxs, hindent hys]
    · intro ts hts
      obtain ⟨item, hitem, rfl⟩ := List.mem_map.1 hts
      exact h item hitem

theorem follows_join {j : JoinClause} (h : ∀ c ∈ j.condition, Tidy c.tokens) :
    Follows (.newline :: j.tokens) := by
  obtain ⟨type, table, condition⟩ := j
  have htable := tidy_tableRef table
  refine .cons rfl ?_
  unfold JoinClause.tokens
  cases condition with
  | none =>
    have htrue : Tidy [.int 1, .space, .eq, .space, .int 1] :=
      .cons (isClean_int 1) rfl (by simp (disch := decide) [isClean_int])
    cases type <;> simp (disch := decide) [JoinType.tokens, htable, htrue]
  | some c =>
    have hc := h c rfl
    cases type <;> simp (disch := decide) [JoinType.tokens, htable, hc]

theorem follows_order {s : Select} (h : ∀ o ∈ s.orderBy, Tidy o.expr.tokens) :
    Follows (s.orderTokens .tsql) := by
  unfold Select.orderTokens
  split
  · refine follows_clause _ (tidy_commaSeparated ?_)
    intro ts hts
    obtain ⟨o, ho, rfl⟩ := List.mem_map.1 hts
    have hdirection : Tidy [.keyword (if o.descending then .DESC else .ASC)] :=
      (tidy_cons_of_isFixed rfl).2 tidy_nil
    exact (tidy_append_cons_of_isFixed rfl).2 ⟨h o ho, hdirection⟩
  · split
    · refine follows_clause _ ?_
      simp (disch := decide)
    · exact .nil

/-- Row counts are whole numbers. -/
theorem tidy_offsetFetch (limit offset : Option UInt64) : Tidy (offsetFetch limit offset) := by
  have hcount : ∀ (n : UInt64) {ts : List Token}, Tidy ts → Tidy (rowCount n :: ts) :=
    fun n _ hts => .cons (isClean_int n.toInt64) rfl hts
  unfold offsetFetch
  cases limit with
  | none =>
    refine (tidy_cons_of_isFixed rfl).2 ((tidy_cons_of_isFixed rfl).2 (hcount _ ?_))
    simp (disch := decide)
  | some n =>
    have hrows : Tidy [.space, .keyword .ROWS, .space, .keyword .ONLY] := by
      simp (disch := decide)
    refine (tidy_cons_of_isFixed rfl).2 ((tidy_cons_of_isFixed rfl).2 (hcount _ ?_))
    simp (disch := decide) [hcount n hrows]

/-- The tokens of a statement are tidy when those of its expressions are. -/
theorem tidy_select {s : Select} (h : s.Clauses fun _ x => Tidy x.tokens) :
    Tidy (s.tokens .tsql) := by
  have hitems : Follows (Select.itemTokens s.items) :=
    follows_items fun item hitem => tidy_selectItem (h.items item hitem)
  have hlead : Tidy (.keyword .SELECT :: Select.itemTokens s.items) :=
    (tidy_cons_of_isFixed rfl).2 hitems.tidy
  unfold Select.tokens
  -- each clause follows those before it
  refine .follow (.follow (.follow (.follow (.follow (.follow (.follow hlead
    ?source) ?joins) ?condition) ?groupBy) ?having) (follows_order h.orderBy)) ?paging
  case source =>
    cases s.source with
    | none => exact .nil
    | some table => exact follows_clause _ (tidy_tableRef table)
  case joins => exact .flatMap fun j hj => follows_join (h.on j hj)
  case condition =>
    cases hc : s.condition with
    | none => exact .nil
    | some c => exact follows_clause _ (h.condition c hc)
  case groupBy =>
    split
    · exact .nil
    · refine follows_clause _ (tidy_commaSeparated ?_)
      intro ts hts
      obtain ⟨e, he, rfl⟩ := List.mem_map.1 hts
      exact h.groupBy e he
  case having =>
    cases hc : s.having with
    | none => exact .nil
    | some c => exact follows_clause _ (h.having c hc)
  case paging =>
    cases s.paging with
    | none => exact .nil
    | some page => exact .cons rfl (tidy_offsetFetch _ _)

end Sql

/-- Scanning a compiled statement ends outside of quotes. In quotes are exactly the identifiers,
strings and dates of the statement's tokens, in order and with doubled quotes undone, and outside
of quotes no statement ends. -/
theorem scan_sql_of_compile (query : Query) (params : Params) (c : Compiled)
    (h : compile query params = .ok c) :
    (scan .plain c.sql.toList).mode = .plain ∧
    (scan .plain c.sql.toList).contents = (c.select.tokens .tsql).flatMap Token.quoted ∧
    ';' ∉ (scan .plain c.sql.toList).plain := by
  have hclauses := clauses_of_compile clauseProperty_tidy h
  obtain ⟨plain, hplain, hscan⟩ := scan_render (Sql.tidy_select hclauses)
  unfold Compiled.sql Select.sql
  rw [hscan]
  exact ⟨rfl, rfl, hplain⟩

/-- Names and a string that try to end their quotes are found in quotes as they are. -/
theorem scan_sql_of_compile_hostile_names :
    let query : Query := .relation (.selection (.table ⟨⟨some "s]; ", "t]['"⟩, []⟩)
      { projections := [⟨"]]", .literal (.string "'; é") none⟩] })
    ∃ c, compile query .empty = .ok c ∧
      (scan .plain c.sql.toList).mode = .plain ∧
      (scan .plain c.sql.toList).contents =
        [(.apostrophe, "'; é"), (.bracket, "]]"), (.bracket, "s]; "), (.bracket, "t]['"),
          (.bracket, "t0")] ∧
      ';' ∉ (scan .plain c.sql.toList).plain := by
  intro query
  have hc : ∃ c, compile query .empty = .ok c ∧
      (c.select.tokens .tsql).flatMap Token.quoted =
        [(.apostrophe, "'; é"), (.bracket, "]]"), (.bracket, "s]; "), (.bracket, "t]['"),
          (.bracket, "t0")] := ⟨_, rfl, rfl⟩
  obtain ⟨c, hc, hquoted⟩ := hc
  obtain ⟨hmode, hcontents, hplain⟩ := scan_sql_of_compile _ _ _ hc
  exact ⟨c, hc, hmode, hcontents.trans hquoted, hplain⟩

end TransactSql
