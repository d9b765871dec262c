import Mathlib.Tactic.Common
import TransactSql.Proofs.ReadBack
import TransactSql.Proofs.Subterms

/-!
# Placeholders of written statements

A parameter is written as a placeholder, `@name`. Which placeholders the text of a statement has
can be told from its expressions: a parameter that occurs in them is written, unless it occurs in
the operand of a test for membership in no values only, since such a test is written without its
operand. `Select.accounts` says so for whole statements.

The proof follows how tokens are put together. What tokens say about the placeholders in them is
kept when lists are joined, whatever other tokens stand between them.
-/

namespace TransactSql.Sql

variable {name : String}

/-- Some of the expressions is a membership test without values, with the parameter in its
operand. -/
def Elided (name : String) (exprs : List Expr) : Prop :=
  ∃ operand negated, Expr.isIn operand [] negated ∈ exprs ∧ Expr.param name ∈ operand.subterms

theorem elided_append {xs ys : List Expr} :
    Elided name (xs ++ ys) ↔ Elided name xs ∨ Elided name ys := by
  simp only [Elided, List.mem_append, or_and_right, exists_or]

/-- A parameter is among the expressions when its placeholder is among the tokens or when it is
elided. -/
def Accounts (name : String) (tokens : List Token) (exprs : List Expr) : Prop :=
  Expr.param name ∈ exprs ↔ Token.param name ∈ tokens ∨ Elided name exprs

namespace Accounts

variable {ts us : List Token} {xs ys : List Expr}

theorem nil : Accounts name [] [] := by
  simp [Accounts, Elided]

theorem append (hx : Accounts name ts xs) (hy : Accounts name us ys) :
    Accounts name (ts ++ us) (xs ++ ys) := by
  unfold Accounts at *
  rw [List.mem_append, List.mem_append, elided_append, hx, hy, or_or_or_comm]

theorem flatMap {α : Type} {tokens : α → List Token} {exprs : α → List Expr} {l : List α}
    (h : ∀ a ∈ l, Accounts name (tokens a) (exprs a)) :
    Accounts name (l.flatMap tokens) (l.flatMap exprs) := by
  induction l with
  | nil => exact nil
  | cons a rest ih =>
    rw [List.flatMap_cons, List.flatMap_cons]
    exact (h a (by simp)).append (ih fun b hb => h b (List.mem_cons_of_mem _ hb))

/-- Only the placeholders among the tokens count. -/
theorem of_tokens (h : Accounts name ts xs)
    (htokens : Token.param name ∈ us ↔ Token.param name ∈ ts) : Accounts name us xs := by
  unfold Accounts at *
  rw [htokens, h]

/-- An expression that has others in it, and that is written with what is written for these. -/
theorem node {x : Expr} (h : Accounts name ts xs) (hparam : x ≠ .param name)
    (hin : ∀ operand negated, x ≠ .isIn operand [] negated) : Accounts name ts (x :: xs) := by
  have helided : Elided name (x :: xs) ↔ Elided name xs := by
    simp [Elided, Ne.symm (hin _ _)]
  unfold Accounts at *
  rw [List.mem_cons, helided, ← h]
  simp [hparam.symm]

end Accounts

/-! ## Tokens that are no placeholders -/

@[simp]
theorem param_ne_literal (value : Literal) : Token.param name ≠ value.token := by
  cases value <;> simp [Literal.token]

@[simp]
theorem param_ne_operator (op : BinaryOp) : Token.param name ≠ op.token := by
  cases op <;> simp [BinaryOp.token]

@[simp]
theorem param_not_mem_qualifier (table : Option String) : Token.param name ∉ qualifier table := by
  cases table <;> simp [qualifier]

/-- What stands between lists of tokens aside, a joined list has the tokens of the lists. -/
theorem mem_intercalate {separator : List Token} {t : Token} (h : t ∉ separator)
    {lists : List (List Token)} :
    t ∈ List.intercalate separator lists ↔ ∃ ts ∈ lists, t ∈ ts := by
  induction lists with
  | nil => simp
  | cons ts rest ih =>
    cases rest with
    | nil => simp
    | cons next rest =>
      rw [List.intercalate_cons_cons, List.mem_append, List.mem_append, ih,
        List.exists_mem_cons_iff]
      simp [h]

@[simp]
theorem param_mem_commaSeparated {lists : List (List Token)} :
    Token.param name ∈ commaSeparated lists ↔ ∃ ts ∈ lists, Token.param name ∈ ts :=
  mem_intercalate (by simp)

/-! ## Expressions -/

namespace Expr

theorem accounts_option {x : Option Expr} (h : ∀ y ∈ x, Accounts name y.tokens y.subterms) :
    Accounts name (x.elim [] tokens) (subtermsOfOption x) := by
  cases x with
  | none => exact .nil
  | some y => exact h y rfl

theorem accounts_branches {branches : List (Expr × Expr)}
    (h : ∀ b ∈ branches, Accounts name b.1.tokens b.1.subterms ∧
      Accounts name b.2.tokens b.2.subterms) :
    Accounts name (tokensOfBranches branches) (subtermsOfBranches branches) := by
  induction branches with
  | nil => exact .nil
  | cons b rest ih =>
    obtain ⟨hcondition, hvalue⟩ := h b (by simp)
    have hrest := ih fun b' hb' => h b' (List.mem_cons_of_mem _ hb')
    refine ((hcondition.append hvalue).append hrest).of_tokens ?_
    simp [tokensOfBranches]

theorem param_mem_tokensAfter {lead : List Token} (h : Token.param name ∉ lead)
    (x : Option Expr) :
    Token.param name ∈ tokensAfter lead x ↔ Token.param name ∈ x.elim [] tokens := by
  cases x <;> simp [tokensAfter, h]

/-- A membership test without values is written without its operand, so every parameter in the
operand is elided. -/
theorem accounts_isIn_nil {operand : Expr} (negated : Bool)
    (h : Accounts name operand.tokens operand.subterms) :
    Accounts name (isIn operand [] negated).tokens (isIn operand [] negated).subterms := by
  have htokens : Token.param name ∉ (isIn operand [] negated).tokens := by
    cases negated <;> simp [tokens]
  have hsubterms : (isIn operand [] negated).subterms =
      isIn operand [] negated :: operand.subterms := by
    rw [subterms, subtermsOfList, List.append_nil]
  rw [hsubterms]
  constructor
  · intro hparam
    refine .inr ⟨operand, negated, List.mem_cons_self, ?_⟩
    simpa using hparam
  · rintro (htoken | ⟨operand', negated', hmem, hparam⟩)
    · exact absurd htoken htokens
    · refine List.mem_cons_of_mem _ ?_
      rcases List.mem_cons.1 hmem with heq | hmem
      · cases heq
        exact hparam
      · exact h.2 (.inr ⟨operand', negated', hmem, hparam⟩)

/-- The placeholders of an expression are its parameters, those apart that are elided. -/
theorem accounts (name : String) (x : Expr) : Accounts name x.tokens x.subterms := by
  induction x using Expr.induct with
  | column | literal | star | raw =>
    exact (Accounts.nil.of_tokens (by simp [tokens])).node (by simp) (by simp)
  | param other => simp [Accounts, Elided, subterms, tokens]
  | binary left op right hleft hright =>
    exact ((hleft.append hright).of_tokens (by simp [tokens])).node (by simp) (by simp)
  | unary op operand ih =>
    exact (ih.of_tokens (by cases op <;> simp [tokens])).node (by simp) (by simp)
  | cast operand type ih | isNull operand negated ih | paren inner ih =>
    exact (ih.of_tokens (by simp [tokens])).node (by simp) (by simp)
  | call function args distinct ih =>
    have hargs := Accounts.flatMap ih
    rw [← subtermsOfList_eq_flatMap] at hargs
    refine (hargs.of_tokens ?_).node (by simp) (by simp)
    cases distinct <;> simp [tokens, tokensOfList_eq_map]
  | case operand branches otherwise hoperand hbranches hotherwise =>
    have hparts := ((accounts_option hoperand).append (accounts_branches hbranches)).append
      (accounts_option hotherwise)
    refine (hparts.of_tokens ?_).node (by simp) (by simp)
    simp [tokens, param_mem_tokensAfter]
  | isIn operand values negated hoperand hvalues =>
    cases values with
    | nil => exact accounts_isIn_nil negated hoperand
    | cons value values =>
      have hvalues := Accounts.flatMap hvalues
      rw [← subtermsOfList_eq_flatMap] at hvalues
      refine ((hoperand.append hvalues).of_tokens ?_).node (by simp) (by simp)
      cases negated <;> simp [tokens, tokensOfList_eq_map]

end Expr

/-! ## Statements -/

@[simp]
theorem param_not_mem_alias (asName : Option String) : Token.param name ∉ aliasTokens asName := by
  cases asName <;> simp [aliasTokens]

@[simp]
theorem param_not_mem_tableRef (t : TableRef) : Token.param name ∉ t.tokens := by
  simp [TableRef.tokens]

@[simp]
theorem param_not_mem_joinType (type : JoinType) : Token.param name ∉ type.tokens := by
  cases type <;> simp [JoinType.tokens]

@[simp]
theorem param_mem_clause {k : Keyword} {ts : List Token} :
    Token.param name ∈ clause k ts ↔ Token.param name ∈ ts := by
  simp [clause]

@[simp]
theorem param_not_mem_offsetFetch (limit offset : Option UInt64) :
    Token.param name ∉ offsetFetch limit offset := by
  cases limit <;> simp [offsetFetch, rowCount]

namespace Select

theorem param_mem_items (items : List SelectItem) :
    Token.param name ∈ itemTokens items ↔
      ∃ x ∈ items.map (·.expr), Token.param name ∈ x.tokens := by
  have hjoined : Token.param name ∈
      List.intercalate [.comma, .newline, .indent 1] (items.map SelectItem.tokens) ↔
        ∃ ts ∈ items.map SelectItem.tokens, Token.param name ∈ ts := mem_intercalate (by simp)
  unfold itemTokens
  split
  · simp
  · simp [hjoined, SelectItem.tokens]

theorem param_mem_join (j : JoinClause) :
    Token.param name ∈ j.tokens ↔ ∃ x ∈ j.condition.toList, Token.param name ∈ x.tokens := by
  obtain ⟨type, table, condition⟩ := j
  cases condition <;> simp [JoinClause.tokens]

theorem param_mem_order (s : Select) :
    Token.param name ∈ s.orderTokens .tsql ↔
      ∃ x ∈ s.orderBy.map (·.expr), Token.param name ∈ x.tokens := by
  unfold orderTokens
  split
  · simp [OrderItem.tokens]
  · next hempty =>
    have hnone : s.orderBy = [] := by simpa using hempty
    rw [hnone]
    split <;> simp

/-- The placeholders of a statement are those of its expressions. -/
theorem param_mem_tokens (s : Select) :
    Token.param name ∈ s.tokens .tsql ↔ ∃ x ∈ s.exprs, Token.param name ∈ x.tokens := by
  unfold tokens exprs
  simp only [List.mem_append, or_and_right, exists_or]
  -- the table that the statement is from and the page have no expressions
  refine (or_iff_left ?paging).trans (or_congr (or_congr (or_congr (or_congr (or_congr
    ((or_iff_left ?source).trans ?items) ?joins) ?condition) ?groupBy) ?having)
    s.param_mem_order)
  case items => simp [param_mem_items]
  case source => cases s.source <;> simp
  case joins =>
    simp only [List.mem_flatMap, List.mem_cons, param_mem_join, reduceCtorEq, false_or]
    constructor
    · rintro ⟨j, hj, x, hx, hparam⟩
      exact ⟨x, ⟨j, hj, hx⟩, hparam⟩
    · rintro ⟨x, ⟨j, hj, hx⟩, hparam⟩
      exact ⟨j, hj, x, hx, hparam⟩
  case condition => cases s.condition <;> simp
  case groupBy => cases s.groupBy <;> simp
  case having => cases s.having <;> simp
  case paging => cases s.paging <;> simp [Dialect.tsql]

/-- The placeholders of a statement are its parameters, those apart that are elided. -/
theorem accounts (name : String) (s : Select) : Accounts name (s.tokens .tsql) s.subterms := by
  refine (Accounts.flatMap fun x _ => x.accounts name).of_tokens ?_
  rw [param_mem_tokens, List.mem_flatMap]

end Select

end TransactSql.Sql
