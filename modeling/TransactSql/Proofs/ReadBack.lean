import TransactSql.Proofs.Lowered
import TransactSql.Proofs.Reader
import TransactSql.Scalar.Build

/-!
# Tokens determine the lowered expression

Writing an expression adds no parentheses, so it rests on lowering that operators and their
operands can be told apart again. Lowered expressions have enough parentheses: the reader of
`Proofs.Reader` gives back exactly the expression that was written, parentheses included. One
form is not written as it is: membership in an empty list becomes a comparison of constants, and
is read back as that.
-/

namespace TransactSql

open Sql (Expr Token BinaryOp Literal Reader commaSeparated readExpr)
open Sql.Reader

namespace Sql.Expr

/-! ## Written expressions -/

/-- The tokens of an expression without blanks. -/
def words (x : Expr) : List Token :=
  x.tokens.filter fun t => !t.isBlank

mutual

/-- The expression with membership in empty lists as it is written: `1 <> 1`, and `1 = 1` where it
is negated. -/
def readBack : Expr → Expr
  | .binary left op right => .binary left.readBack op right.readBack
  | .unary op operand => .unary op operand.readBack
  | .call function args distinct => .call function (readBackList args) distinct
  | .case operand branches otherwise =>
    .case (readBackOption operand) (readBackBranches branches) (readBackOption otherwise)
  | .cast operand type => .cast operand.readBack type
  | .isIn _ [] negated => .binary (.int 1) (if negated then .eq else .ne) (.int 1)
  | .isIn operand (value :: values) negated =>
    .isIn operand.readBack (value.readBack :: readBackList values) negated
  | .isNull operand negated => .isNull operand.readBack negated
  | .paren inner => .paren inner.readBack
  | leaf => leaf

/-- `readBack` for each expression of a list. -/
def readBackList : List Expr → List Expr
  | [] => []
  | x :: rest => x.readBack :: readBackList rest

/-- `readBack` for an expression that may be absent. -/
def readBackOption : Option Expr → Option Expr
  | none => none
  | some x => some x.readBack

/-- `readBack` for the branches of a `CASE`. -/
def readBackBranches : List (Expr × Expr) → List (Expr × Expr)
  | [] => []
  | (condition, value) :: rest => (condition.readBack, value.readBack) :: readBackBranches rest

end

theorem readBackList_eq_map (args : List Expr) : readBackList args = args.map readBack := by
  induction args with
  | nil => rfl
  | cons x rest ih => rw [readBackList, ih, List.map_cons]

theorem tokensOfList_eq_map (args : List Expr) : tokensOfList args = args.map tokens := by
  induction args with
  | nil => rfl
  | cons x rest ih => rw [tokensOfList, ih, List.map_cons]

/-- Without blanks, only the commas are left between the parts of a list. -/
theorem filter_commaSeparated (args : List Expr) :
    (commaSeparated (args.map tokens)).filter (fun t => !t.isBlank)
      = List.intercalate [.comma] (args.map words) := by
  unfold commaSeparated
  induction args with
  | nil => rfl
  | cons x rest ih =>
    cases rest with
    | nil => simp [words]
    | cons y rest =>
      simp only [List.map_cons, List.intercalate_cons_cons, List.filter_append] at ih ⊢
      rw [ih]
      rfl

@[simp]
theorem words_int (n : Int64) : words (.int n) = [.int n] := rfl

@[simp]
theorem words_paren (x : Expr) : words (.paren x) = .leftParen :: x.words ++ [.rightParen] := by
  simp [words, tokens, Token.isBlank]

@[simp]
theorem words_cast (x : Expr) (type : String) :
    words (.cast x type)
      = .keyword .CAST :: .leftParen :: x.words ++ [.keyword .AS, .typeName type, .rightParen] := by
  simp [words, tokens, Token.isBlank]

@[simp]
theorem words_binary (x y : Expr) (op : BinaryOp) :
    words (.binary x op y) = x.words ++ op.token :: y.words := by
  cases op <;> simp [words, tokens, Token.isBlank, BinaryOp.token]

@[simp]
theorem words_minus (x : Expr) : words (.unary .minus x) = .minus :: x.words := by
  simp [words, tokens, Token.isBlank]

@[simp]
theorem words_not (x : Expr) : words (.unary .not x) = .keyword .NOT :: x.words := by
  simp [words, tokens, Token.isBlank]

@[simp]
theorem words_function (name : String) (args : List Expr) :
    words (.function name args)
      = .functionName name :: .leftParen :: List.intercalate [.comma] (args.map words)
        ++ [.rightParen] := by
  rw [← filter_commaSeparated, ← tokensOfList_eq_map]
  simp [words, function, tokens, Token.isBlank]

@[simp]
theorem words_caseWhen (c x y : Expr) :
    words (.caseWhen c x y)
      = .keyword .CASE :: .keyword .WHEN :: c.words ++ .keyword .THEN :: x.words
        ++ .keyword .ELSE :: y.words ++ [.keyword .END] := by
  simp [words, caseWhen, tokens, tokensAfter, tokensOfBranches, Token.isBlank]

@[simp]
theorem words_isIn_nil (x : Expr) (negated : Bool) :
    words (.isIn x [] negated)
      = [.int 1, if negated then .eq else .ne, .int 1] := by
  cases negated <;> rfl

/-- Membership in a list that is not empty. -/
theorem words_isIn_cons (x v : Expr) (values : List Expr) (negated : Bool) :
    words (.isIn x (v :: values) negated)
      = x.words ++ ((if negated then [.keyword .NOT] else []) ++ .keyword .IN :: .leftParen
        :: (List.intercalate [.comma] ((v :: values).map words) ++ [.rightParen])) := by
  rw [← filter_commaSeparated, List.map_cons, ← tokensOfList_eq_map]
  cases negated <;> simp [words, tokens, Token.isBlank]

@[simp]
theorem words_isNull (x : Expr) :
    words (.isNull x false) = x.words ++ [.keyword .IS_NULL] := by
  simp [words, tokens, Token.isBlank]

end Sql.Expr

/-! ## Reading on a level -/

/-- The tokens of an expression are read by the reader of a level, at any depth that is not below
their number. -/
def ReadAs (reader : Reader Expr → Reader Expr) (level : Nat) (x : Expr) : Prop :=
  ∀ depth, x.words.length ≤ depth → Reads (reader (expression depth)) level x.words x.readBack

namespace ReadAs

variable {x y : Expr}

theorem sum (h : ReadAs primary 0 x) : ReadAs sum 2 x :=
  fun depth hd => (h depth hd).signed.product.sum

theorem comparison (h : ReadAs Reader.sum 2 x) : ReadAs comparison 3 x :=
  fun depth hd => (h depth hd).comparison

theorem disjunction (h : ReadAs Reader.comparison 3 x) : ReadAs disjunction 5 x :=
  fun depth hd => (h depth hd).negation.conjunction.disjunction

/-- A part of a larger expression is read inside it: the depth that is left suffices for it. -/
theorem inner (h : ReadAs Reader.disjunction 5 x) {depth : Nat} (hd : x.words.length < depth) :
    Reads (expression depth) 5 x.words x.readBack := by
  cases depth with
  | zero => omega
  | succ depth => exact h depth (by omega)

theorem paren (h : ReadAs Reader.disjunction 5 x) : ReadAs primary 0 (.paren x) := by
  intro depth hd
  rw [Expr.words_paren] at hd ⊢
  simp only [List.length_append, List.length_cons] at hd
  exact reads_paren (h.inner (by omega))

theorem cast (h : ReadAs Reader.disjunction 5 x) (type : String) :
    ReadAs primary 0 (.cast x type) := by
  intro depth hd
  rw [Expr.words_cast] at hd ⊢
  simp only [List.length_append, List.length_cons] at hd
  exact reads_cast (h.inner (by omega)) type

theorem caseWhen {c : Expr} (hc : ReadAs Reader.disjunction 5 c)
    (hx : ReadAs Reader.disjunction 5 x) (hy : ReadAs Reader.disjunction 5 y) :
    ReadAs primary 0 (.caseWhen c x y) := by
  intro depth hd
  rw [Expr.words_caseWhen] at hd ⊢
  simp only [List.length_append, List.length_cons] at hd
  exact reads_caseWhen (hc.inner (by omega)) (hx.inner (by omega)) (hy.inner (by omega))

/-- Parts of a list are not longer than the list. -/
theorem length_le_intercalate {args : List Expr} (h : x ∈ args) :
    x.words.length ≤ (List.intercalate [Token.comma] (args.map Expr.words)).length := by
  induction args with
  | nil => cases h
  | cons a rest ih =>
    cases rest with
    | nil =>
      rw [List.mem_singleton.1 h]
      simp
    | cons b rest =>
      rw [List.map_cons, List.map_cons, List.intercalate_cons_cons]
      simp only [List.length_append, List.length_cons]
      rcases List.mem_cons.1 h with rfl | h
      · omega
      · have := ih h
        rw [List.map_cons] at this
        omega

/-- Lists of expressions that are read one by one, as the reader of lists takes them. -/
theorem parts {args : List Expr} (h : ∀ a ∈ args, ReadAs Reader.disjunction 5 a) {depth : Nat}
    (hd : (List.intercalate [Token.comma] (args.map Expr.words)).length < depth) :
    ∀ part ∈ args.map (fun a => (a.words, a.readBack)),
      Reads (expression depth) 5 part.1 part.2 := by
  intro part hpart
  obtain ⟨a, ha, rfl⟩ := List.mem_map.1 hpart
  have := length_le_intercalate ha
  exact (h a ha).inner (by omega)

theorem function {args : List Expr} (name : String)
    (h : ∀ a ∈ args, ReadAs Reader.disjunction 5 a) : ReadAs primary 0 (.function name args) := by
  intro depth hd
  rw [Expr.words_function] at hd ⊢
  simp only [List.length_append, List.length_cons] at hd
  have hcall := reads_call name (parts h (by omega) : ∀ part ∈ _, Reads (expression depth) 5 _ _)
  simp only [List.map_map, Function.comp_def] at hcall
  unfold Expr.function
  rw [Expr.readBack, Expr.readBackList_eq_map]
  exact hcall

/-- Products and sums of primaries. -/
theorem arithmetic {op : BinaryOp} (hop : op.isArithmetic) (hx : ReadAs primary 0 x)
    (hy : ReadAs primary 0 y) : ReadAs Reader.sum 2 (.binary x op y) := by
  intro depth hd
  rw [Expr.words_binary] at hd ⊢
  simp only [List.length_append, List.length_cons] at hd
  have hx := (hx depth (by omega)).signed
  have hy := (hy depth (by omega)).signed
  rw [Expr.readBack]
  -- `*` and `/` are read one level below `+`, `-` and concatenation
  cases op with
  | times | divide =>
    refine Reads.sum ?_
    exact hx.binary hy (by omega) rfl
  | plus | minus | concat => exact hx.product.binary hy.product (by omega) rfl
  | _ => cases hop

theorem minus (hx : ReadAs primary 0 x) : ReadAs Reader.sum 2 (.unary .minus x) := by
  intro depth hd
  rw [Expr.words_minus] at hd ⊢
  simp only [List.length_cons] at hd
  exact (hx depth (by omega)).signed.minus.product.sum

/-- A comparison operator goes on with a sum. -/
theorem comparisonStep_operator {inner : Reader Expr} {op : BinaryOp} (hop : op.isComparison)
    (left : Expr) (ts : List Token) :
    comparisonStep inner left (op.token :: ts) =
      match Reader.sum inner ts with
      | some (right, rest) => some (some (.binary left op right, rest))
      | none => none := by
  cases op with
  | eq | ne | lt | gt | le | ge =>
    simp only [BinaryOp.token, comparisonStep, Token.level, Token.operator?, ↓reduceIte]
    cases Reader.sum inner ts <;> rfl
  | _ => cases hop

theorem compared {op : BinaryOp} (hop : op.isComparison) (hx : ReadAs primary 0 x)
    (hy : ReadAs primary 0 y) : ReadAs Reader.comparison 3 (.binary x op y) := by
  intro depth hd
  rw [Expr.words_binary] at hd ⊢
  simp only [List.length_append, List.length_cons] at hd
  have hx := hx.sum depth (by omega)
  have hy := hy.sum depth (by omega)
  have hlevel : op.token.level = 3 := by
    cases op with
    | eq | ne | lt | gt | le | ge => rfl
    | _ => cases hop
  refine hx.comparisonStep hlevel fun rest hrest => ?_
  rw [List.cons_append, comparisonStep_operator hop, hy rest (hrest.of_le (by omega))]
  rfl

theorem nullTest (hx : ReadAs primary 0 x) : ReadAs Reader.comparison 3 (.isNull x false) := by
  intro depth hd
  rw [Expr.words_isNull] at hd ⊢
  simp only [List.length_append, List.length_cons] at hd
  exact (hx.sum depth (by omega)).comparisonStep rfl fun rest _ => rfl

/-- Membership in an empty list is a comparison of constants. -/
theorem membership_nil (negated : Bool) : ReadAs Reader.comparison 3 (.isIn x [] negated) := by
  have hone : ReadAs primary 0 (.int 1) := fun depth _ rest _ => rfl
  have hconstants : ReadAs Reader.comparison 3
      (.binary (.int 1) (if negated then .eq else .ne) (.int 1)) :=
    compared (by cases negated <;> rfl) hone hone
  intro depth hd
  have hread := hconstants depth (by simpa using hd)
  cases negated <;> exact hread

theorem membership {values : List Expr} (negated : Bool) (hx : ReadAs primary 0 x)
    (hvalues : ∀ v ∈ values, ReadAs Reader.disjunction 5 v) :
    ReadAs Reader.comparison 3 (.isIn x values negated) := by
  cases values with
  | nil => exact membership_nil negated
  | cons v values =>
    intro depth hd
    rw [Expr.words_isIn_cons] at hd ⊢
    simp only [List.length_append, List.length_cons] at hd
    have hx := hx.sum depth (by omega)
    have hparts : ∀ part ∈ (v :: values).map (fun a => (a.words, a.readBack)),
        Reads (expression depth) 5 part.1 part.2 := parts hvalues (by omega)
    have hitems : ∀ rest, items (expression depth)
        (List.intercalate [.comma] ((v :: values).map Expr.words) ++ .rightParen :: rest)
        = some (v.readBack :: Expr.readBackList values, rest) := by
      intro rest
      have hread := items_intercalate (by simp) hparts rest
      rw [Expr.readBackList_eq_map, ← List.map_cons]
      simpa only [List.map_map, Function.comp_def] using hread
    rw [Expr.readBack]
    -- the step after the operand starts with `IN`, or with `NOT` and then `IN`
    cases negated with
    | false =>
      refine hx.comparisonStep rfl fun rest _ => ?_
      rw [List.cons_append, List.cons_append, List.append_assoc, List.singleton_append,
        comparisonStep, hitems]
    | true =>
      refine hx.comparisonStep rfl fun rest _ => ?_
      show comparisonStep _ _ (.keyword .NOT :: .keyword .IN :: .leftParen :: (_ ++ rest)) = _
      rw [List.append_assoc, List.singleton_append, comparisonStep, hitems]

theorem connected {op : BinaryOp} (hop : op.isConnective) (hx : ReadAs Reader.comparison 3 x)
    (hy : ReadAs Reader.comparison 3 y) : ReadAs Reader.disjunction 5 (.binary x op y) := by
  intro depth hd
  rw [Expr.words_binary] at hd ⊢
  simp only [List.length_append, List.length_cons] at hd
  have hx := (hx depth (by omega)).negation
  have hy := (hy depth (by omega)).negation
  rw [Expr.readBack]
  cases op with
  | and =>
    refine Reads.disjunction ?_
    exact hx.binary hy (by omega) rfl
  | or => exact hx.conjunction.binary hy.conjunction (by omega) rfl
  | _ => cases hop

theorem not (hx : ReadAs primary 0 x) : ReadAs Reader.disjunction 5 (.unary .not x) := by
  intro depth hd
  rw [Expr.words_not] at hd ⊢
  simp only [List.length_cons] at hd
  exact (hx.sum.comparison depth (by omega)).negation.not.conjunction.disjunction

end ReadAs

/-! ## Lowered expressions -/

/-- On which level an expression of a role is read, as it is and as an operand: a value as an
operand is a primary, a condition as an operand is a comparison. -/
def ReadsInRole : Role → Expr → Prop
  | .value, x => ReadAs primary 0 x.nested ∧ ReadAs sum 2 x
  | .condition, x => ReadAs comparison 3 x.nested ∧ ReadAs disjunction 5 x

namespace ReadsInRole

variable {x : Expr}

theorem disjunction {role : Role} (h : ReadsInRole role x) : ReadAs Reader.disjunction 5 x := by
  cases role with
  | value => exact h.2.comparison.disjunction
  | condition => exact h.2

/-- An expression that gets no parentheses as an operand. -/
theorem of_primary (h : ReadAs primary 0 x) (hnested : x.nested = x) :
    ReadsInRole .value x :=
  ⟨hnested.symm ▸ h, h.sum⟩

theorem of_sum (h : ReadAs sum 2 x) (hnested : x.nested = .paren x) : ReadsInRole .value x :=
  ⟨hnested.symm ▸ h.comparison.disjunction.paren, h⟩

theorem of_comparison (h : ReadAs comparison 3 x) (hnested : x.nested = x) :
    ReadsInRole .condition x :=
  ⟨hnested.symm ▸ h, h.disjunction⟩

theorem of_disjunction (h : ReadAs Reader.disjunction 5 x) (hnested : x.nested = .paren x) :
    ReadsInRole .condition x :=
  ⟨hnested.symm ▸ h.paren.sum.comparison, h⟩

/-- The operand of a minus sign is a primary. -/
theorem minusOperand (h : ReadsInRole .value x) : ReadAs primary 0 (Lower.minusOperand x) := by
  unfold Lower.minusOperand
  split
  · exact h.1
  · exact h.1
  · exact h.1
  · exact h.disjunction.paren

end ReadsInRole

/-- Lowered expressions are read on the level of their role. -/
theorem Lowered.readsInRole {role : Role} {x : Expr} (h : Lowered role x) :
    ReadsInRole role x := by
  induction h with
  | column tableAlias name => exact .of_primary (fun depth _ rest _ => rfl) rfl
  | @literal l _ =>
    refine .of_primary (fun depth _ rest _ => ?_) rfl
    cases l <;> rfl
  | param _ => exact .of_primary (fun depth _ rest _ => rfl) rfl
  | cast _ type ih => exact .of_primary (ih.disjunction.cast _) rfl
  | function _ _ ih => exact .of_primary (.function _ fun a ha => (ih a ha).disjunction) rfl
  | datePart part _ ih =>
    refine .of_primary (.function _ fun a ha => ?_) rfl
    rcases List.mem_cons.1 ha with rfl | ha
    · have hraw : ReadAs primary 0 (.raw part.name) := fun depth _ rest _ => rfl
      exact hraw.sum.comparison.disjunction
    · rw [List.mem_singleton.1 ha]
      exact ih.disjunction
  | caseWhen _ _ _ ihc ihx ihy =>
    exact .of_primary (.caseWhen ihc.disjunction ihx.disjunction ihy.disjunction) rfl
  | arithmetic hop _ _ ihx ihy => exact .of_sum (.arithmetic hop ihx.1 ihy.1) rfl
  | minus _ ih => exact .of_sum ih.minusOperand.minus rfl
  | comparison hop _ _ ihx ihy =>
    exact .of_disjunction (ReadAs.compared hop ihx.1 ihy.1).disjunction rfl
  | connective hop _ _ ihx ihy => exact .of_disjunction (.connected hop ihx.1 ihy.1) rfl
  -- what is negated has parentheses of its own, so it is a primary
  | negation _ ih => exact .of_disjunction (.not ih.2.paren) rfl
  | membership negated _ _ ihx ihvalues =>
    exact .of_comparison (.membership negated ihx.1 fun v hv => (ihvalues v hv).disjunction) rfl
  | nullTest _ ih => exact .of_comparison (.nullTest ih.1) rfl

/-- Tokens that are read with nothing after them are read as one expression. -/
theorem readExpr_of_reads {x e : Expr}
    (h : Reads (disjunction (expression x.words.length)) 5 x.words e) :
    readExpr x.words = some e := by
  have hread := h [] (by simp [Ends])
  rw [List.append_nil] at hread
  unfold readExpr
  rw [expression, hread]

theorem Lowered.readExpr_words {role : Role} {x : Expr} (h : Lowered role x) :
    readExpr x.words = some x.readBack :=
  readExpr_of_reads (h.readsInRole.disjunction _ (Nat.le_refl _))

/-- Reading the tokens of a lowered expression without blanks takes all of them and gives back the
expression, parentheses included, where membership in an empty list is read as the comparison
that it is written as. -/
theorem readExpr_tokens_of_lower (s : Scope) (role : Role) (e : Scalar) (x : Expr)
    (h : (s.lower role e).1 = .ok x) :
    readExpr (x.tokens.filter fun t => !t.isBlank) = some x.readBack := by
  have hreads := (s.lowered_of_lower h).readsInRole.disjunction.inner
    (Nat.lt_succ_self x.words.length)
  have hread := hreads [] (by simp [Ends])
  rw [List.append_nil] at hread
  unfold readExpr
  rw [show x.tokens.filter (fun t => !t.isBlank) = x.words from rfl, hread]

/-- A condition with parentheses of all kinds, `NOT (@a * (- (@a + 1)) NOT IN ()) OR @a IN (@a)`,
of which the part with the empty list is read as `1 = 1`. -/
theorem readExpr_tokens_of_lower_empty_list :
    let a : Scalar := .param "a" .int64
    let negated : Scalar := .apply .negate [.apply .add [a, .literal (.int 1) none]]
    let absent : Scalar := .apply .notIn [.apply .multiply [a, negated]]
    let e : Scalar := .apply .or [.apply .not [absent], .apply .isIn [a, a]]
    ∃ x, ((Scope.new .empty).lower .condition e).1 = .ok x ∧
      readExpr (x.tokens.filter fun t => !t.isBlank) = some x.readBack ∧
      x.readBack = .binary
        (.paren (.unary .not (.paren (.binary (.int 1) .eq (.int 1)))))
        .or (.isIn (.param "a") [.param "a"] false) := by
  intro a negated absent e
  have hx : ∃ x, ((Scope.new .empty).lower .condition e).1 = .ok x ∧
      x.readBack = .binary
        (.paren (.unary .not (.paren (.binary (.int 1) .eq (.int 1)))))
        .or (.isIn (.param "a") [.param "a"] false) := ⟨_, rfl, rfl⟩
  obtain ⟨x, hx, hread⟩ := hx
  exact ⟨x, hx, readExpr_tokens_of_lower _ _ _ _ hx, hread⟩

end TransactSql
