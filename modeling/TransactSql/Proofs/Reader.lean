import Mathlib.Tactic.Common
import TransactSql.Sql.Expr

/-!
# Reading expressions

A reader of SQL expressions that knows the precedence of Transact-SQL. From the tightest binding
on: primaries (columns, literals, parameters, keywords, calls, `CAST`, `CASE`, parentheses), the
minus sign, products, sums, comparisons with `IN` and `IS NULL`, `NOT`, `AND`, `OR`. Operators
between operands associate to the left. The reader takes tokens without blanks and decides
nothing by looking back at how the tokens were made.

Each level is a function of `inner`, the reader of expressions inside parentheses, lists and
`CASE`. Expressions are nested less deep than they have tokens, so `read` bounds the nesting by
the number of tokens.
-/

namespace TransactSql.Sql

/-- A blank, a line end or an indentation. -/
def Token.isBlank : Token → Bool
  | .space | .newline | .indent _ => true
  | _ => false

/-- The operator that a token stands for. -/
def Token.operator? : Token → Option BinaryOp
  | .eq => some .eq
  | .ne => some .ne
  | .lt => some .lt
  | .gt => some .gt
  | .le => some .le
  | .ge => some .ge
  | .keyword .AND => some .and
  | .keyword .OR => some .or
  | .plus => some .plus
  | .minus => some .minus
  | .times => some .times
  | .divide => some .divide
  | .modulo => some .modulo
  | .concat => some .concat
  | .keyword .LIKE => some .like
  | _ => none

/-- The level on which a token goes on with an expression: 1 products, 2 sums, 3 comparisons,
4 conjunctions, 5 disjunctions. All other tokens end an expression. -/
def Token.level : Token → Nat
  | .times | .divide | .modulo => 1
  | .plus | .minus | .concat => 2
  | .eq | .ne | .lt | .gt | .le | .ge => 3
  | .keyword .LIKE | .keyword .IN | .keyword .NOT | .keyword .IS_NULL
  | .keyword .IS_NOT_NULL => 3
  | .keyword .AND => 4
  | .keyword .OR => 5
  | _ => 6

/-- A reader of something at the front of tokens, with the tokens that come after it. -/
abbrev Reader (α : Type) := List Token → Option (α × List Token)

namespace Reader

/-! ## Lists and branches -/

/-- Expressions with commas between them, up to a closing parenthesis. -/
def items (inner : Reader Expr) (ts : List Token) : Option (List Expr × List Token) :=
  match inner ts with
  | some (e, .rightParen :: rest) => some ([e], rest)
  | some (e, .comma :: rest) =>
    if rest.length < ts.length then
      match items inner rest with
      | some (es, rest) => some (e :: es, rest)
      | none => none
    else none
  | _ => none
termination_by ts.length

/-- The branches of a `CASE`, as long as `WHEN` comes. -/
def branches (inner : Reader Expr) (ts : List Token) :
    Option (List (Expr × Expr) × List Token) :=
  match ts with
  | .keyword .WHEN :: whenTokens =>
    match inner whenTokens with
    | some (condition, .keyword .THEN :: thenTokens) =>
      match inner thenTokens with
      | some (value, rest) =>
        if rest.length ≤ whenTokens.length then
          match branches inner rest with
          | some (bs, rest) => some ((condition, value) :: bs, rest)
          | none => none
        else none
      | none => none
    | _ => none
  | ts => some ([], ts)
termination_by ts.length

/-- `ELSE` and an expression, if it comes. -/
def otherwise (inner : Reader Expr) : Reader (Option Expr)
  | .keyword .ELSE :: rest =>
    match inner rest with
    | some (e, rest) => some (some e, rest)
    | none => none
  | ts => some (none, ts)

/-- The operand of a `CASE`, if no `WHEN` comes. -/
def caseOperand (inner : Reader Expr) : Reader (Option Expr)
  | .keyword .WHEN :: rest => some (none, .keyword .WHEN :: rest)
  | ts =>
    match inner ts with
    | some (e, rest) => some (some e, rest)
    | none => none

/-! ## Primaries -/

/-- A column, of which the first name is read. -/
def column (name : String) : Reader Expr
  | .dot :: .identifier column :: rest => some (.column (some name) column, rest)
  | rest => some (.column none name, rest)

/-- The arguments of a call and its closing parenthesis. -/
def arguments (inner : Reader Expr) : Reader (List Expr)
  | .rightParen :: rest => some ([], rest)
  | ts => items inner ts

/-- A call, of which the name is read. -/
def call (inner : Reader Expr) (function : String) : Reader Expr
  | .leftParen :: .keyword .DISTINCT :: rest =>
    match arguments inner rest with
    | some (args, rest) => some (.call function args true, rest)
    | none => none
  | .leftParen :: rest =>
    match arguments inner rest with
    | some (args, rest) => some (.call function args false, rest)
    | none => none
  | _ => none

/-- A cast, after its keyword. -/
def cast (inner : Reader Expr) : Reader Expr
  | .leftParen :: rest =>
    match inner rest with
    | some (e, .keyword .AS :: .typeName type :: .rightParen :: rest) => some (.cast e type, rest)
    | _ => none
  | _ => none

/-- A `CASE`, after its keyword. -/
def caseOf (inner : Reader Expr) (ts : List Token) : Option (Expr × List Token) :=
  match caseOperand inner ts with
  | some (operand, rest) =>
    match branches inner rest with
    | some (bs, rest) =>
      match otherwise inner rest with
      | some (e, .keyword .END :: rest) => some (.case operand bs e, rest)
      | _ => none
    | none => none
  | none => none

/-- An expression in parentheses, after the opening one. -/
def parenthesized (inner : Reader Expr) (ts : List Token) : Option (Expr × List Token) :=
  match inner ts with
  | some (e, .rightParen :: rest) => some (.paren e, rest)
  | _ => none

/-- A primary: its first token says what it is. -/
def primary (inner : Reader Expr) : Reader Expr
  | .identifier name :: rest => column name rest
  | .int n :: rest => some (.literal (.int n), rest)
  | .float x :: rest => some (.literal (.float x), rest)
  | .string s :: rest => some (.literal (.string s), rest)
  | .bool b :: rest => some (.literal (.bool b), rest)
  | .date text :: rest => some (.literal (.date text), rest)
  | .null :: rest => some (.literal .null, rest)
  | .param name :: rest => some (.param name, rest)
  | .raw text :: rest => some (.raw text, rest)
  | .functionName function :: rest => call inner function rest
  | .keyword .CAST :: rest => cast inner rest
  | .keyword .CASE :: rest => caseOf inner rest
  | .leftParen :: rest => parenthesized inner rest
  | _ => none

/-! ## Operators -/

/-- A primary with any number of minus signs before it. -/
def signed (inner : Reader Expr) : Reader Expr
  | .minus :: rest =>
    match signed inner rest with
    | some (e, rest) => some (.unary .minus e, rest)
    | none => none
  | ts => primary inner ts

/-- Goes on from a left operand as long as an operator of the level comes. -/
def chain (level : Nat) (operand : Reader Expr) (left : Expr) (ts : List Token) :
    Option (Expr × List Token) :=
  match ts with
  | [] => some (left, [])
  | t :: opTokens =>
    if t.level = level then
      match t.operator?, operand opTokens with
      | some op, some (right, rest) =>
        if rest.length ≤ opTokens.length then chain level operand (.binary left op right) rest
        else none
      | _, _ => none
    else some (left, t :: opTokens)
termination_by ts.length
decreasing_by exact Nat.lt_succ_of_le ‹_›

/-- Operands with operators of one level between them, associated to the left. -/
def leftAssociated (level : Nat) (operand : Reader Expr) (ts : List Token) :
    Option (Expr × List Token) :=
  match operand ts with
  | some (left, rest) => chain level operand left rest
  | none => none

/-- Operands with `*`, `/` and `%` between them. -/
def product (inner : Reader Expr) : Reader Expr :=
  leftAssociated 1 (signed inner)

/-- Operands with `+`, `-` and concatenation between them. -/
def sum (inner : Reader Expr) : Reader Expr :=
  leftAssociated 2 (product inner)

/-- What can follow a left operand on the level of comparisons: `none` where the tokens are
wrong, and otherwise what was read, if anything. -/
def comparisonStep (inner : Reader Expr) (left : Expr) :
    List Token → Option (Option (Expr × List Token))
  | .keyword .IS_NULL :: rest => some (some (.isNull left false, rest))
  | .keyword .IS_NOT_NULL :: rest => some (some (.isNull left true, rest))
  | .keyword .IN :: .leftParen :: rest =>
    match items inner rest with
    | some (values, rest) => some (some (.isIn left values false, rest))
    | none => none
  | .keyword .NOT :: .keyword .IN :: .leftParen :: rest =>
    match items inner rest with
    | some (values, rest) => some (some (.isIn left values true, rest))
    | none => none
  | t :: rest =>
    if t.level = 3 then
      match t.operator?, sum inner rest with
      | some op, some (right, rest) => some (some (.binary left op right, rest))
      | _, _ => none
    else some none
  | [] => some none

/-- Goes on from a left operand on the level of comparisons. -/
def comparisonChain (inner : Reader Expr) (left : Expr) (ts : List Token) :
    Option (Expr × List Token) :=
  match comparisonStep inner left ts with
  | some (some (e, rest)) =>
    if rest.length < ts.length then comparisonChain inner e rest else none
  | some none => some (left, ts)
  | none => none
termination_by ts.length

/-- Sums with comparisons, `IN` and `IS NULL` after them, associated to the left. -/
def comparison (inner : Reader Expr) (ts : List Token) : Option (Expr × List Token) :=
  match sum inner ts with
  | some (left, rest) => comparisonChain inner left rest
  | none => none

/-- A comparison with any number of `NOT` before it. -/
def negation (inner : Reader Expr) : Reader Expr
  | .keyword .NOT :: rest =>
    match negation inner rest with
    | some (e, rest) => some (.unary .not e, rest)
    | none => none
  | ts => comparison inner ts

/-- Operands with `AND` between them. -/
def conjunction (inner : Reader Expr) : Reader Expr :=
  leftAssociated 4 (negation inner)

/-- Operands with `OR` between them. -/
def disjunction (inner : Reader Expr) : Reader Expr :=
  leftAssociated 5 (conjunction inner)

/-- An expression in which expressions are nested less than `depth` deep. -/
def expression : (depth : Nat) → Reader Expr
  | 0 => fun _ => none
  | depth + 1 => disjunction (expression depth)

end Reader

/-- Reads tokens as one expression. -/
def readExpr (ts : List Token) : Option Expr :=
  match Reader.expression (ts.length + 1) ts with
  | some (e, []) => some e
  | _ => none

/-- Products bind tighter than sums, sums associate to the left. -/
example :
    readExpr [.int 1, .minus, .int 2, .minus, .int 3, .times, .int 4] =
      some (.binary (.binary (.int 1) .minus (.int 2)) .minus
        (.binary (.int 3) .times (.int 4))) := by
  cbv

namespace Reader

/-! ## Reading in front of other tokens

What comes after an expression decides where it ends: a reader of a level stops in front of a
token that goes on only on a weaker level. `Reads` states this for any such rest, which is what
makes the readers of two neighbouring parts fit together. -/

/-- The tokens do not go on with an expression of the level. -/
def Ends (level : Nat) (rest : List Token) : Prop :=
  ∀ t ∈ rest.head?, level < t.level

/-- The reader takes exactly the tokens `ts` for `e`, whatever follows them that does not go on on
the level. -/
def Reads (reader : Reader Expr) (level : Nat) (ts : List Token) (e : Expr) : Prop :=
  ∀ rest, Ends level rest → reader (ts ++ rest) = some (e, rest)

theorem Ends.of_le {level level' : Nat} {rest : List Token} (hle : level' ≤ level)
    (h : Ends level rest) : Ends level' rest := by
  intro t ht
  have := h t ht
  omega

theorem ends_cons {level : Nat} {t : Token} {rest : List Token} :
    Ends level (t :: rest) ↔ level < t.level := by
  simp [Ends]

/-- An operator's token stands for it. -/
@[simp]
theorem operator?_token (op : BinaryOp) : op.token.operator? = some op := by
  cases op <;> rfl

/-! ### From level to level -/

variable {inner : Reader Expr} {level level' : Nat} {ts ts' : List Token} {e e' : Expr}

/-- A chain ends where no operator of its level comes. -/
theorem chain_of_ends {operand : Reader Expr} {rest : List Token} (h : Ends level rest) :
    chain level operand e rest = some (e, rest) := by
  rw [chain.eq_def]
  cases rest with
  | nil => rfl
  | cons t rest =>
    have ht : level < t.level := ends_cons.1 h
    simp only
    rw [if_neg (by omega)]

/-- One operand alone is read on the level of its operators. -/
theorem Reads.leftAssociated {operand : Reader Expr} (h : Reads operand level' ts e)
    (hle : level' ≤ level) : Reads (leftAssociated level operand) level ts e := by
  intro rest hrest
  have hoperand := h rest (hrest.of_le hle)
  unfold Reader.leftAssociated
  rw [hoperand]
  exact chain_of_ends hrest

/-- Two operands with an operator of the level between them. -/
theorem Reads.binary {operand : Reader Expr} {op : BinaryOp} (h : Reads operand level' ts e)
    (h' : Reads operand level' ts' e') (hlt : level' < level) (hop : op.token.level = level) :
    Reads (Reader.leftAssociated level operand) level (ts ++ op.token :: ts') (.binary e op e') := by
  intro rest hrest
  have hleft : operand (ts ++ op.token :: (ts' ++ rest)) = some (e, op.token :: (ts' ++ rest)) :=
    h _ (ends_cons.2 (by omega))
  have hright : operand (ts' ++ rest) = some (e', rest) := h' rest (hrest.of_le (by omega))
  unfold Reader.leftAssociated
  rw [List.append_assoc, List.cons_append, hleft]
  simp only
  rw [chain.eq_def]
  simp only [hop, ↓reduceIte, operator?_token, hright, List.length_append]
  rw [if_pos (by omega)]
  exact chain_of_ends hrest

/-- A primary is read where minus signs may come before it, since it does not start with one. -/
theorem Reads.signed (h : Reads (primary inner) 0 ts e) : Reads (Reader.signed inner) 0 ts e := by
  intro rest hrest
  have hprimary := h rest hrest
  rw [Reader.signed.eq_def]
  split
  -- a primary that starts with a minus sign is not read at all
  · next heq =>
    rw [heq] at hprimary
    cases hprimary
  · exact hprimary

theorem Reads.minus (h : Reads (Reader.signed inner) 0 ts e) :
    Reads (Reader.signed inner) 0 (.minus :: ts) (.unary .minus e) := by
  intro rest hrest
  rw [List.cons_append, Reader.signed, h rest hrest]

theorem Reads.product (h : Reads (Reader.signed inner) 0 ts e) :
    Reads (Reader.product inner) 1 ts e :=
  h.leftAssociated (by omega)

theorem Reads.sum (h : Reads (Reader.product inner) 1 ts e) : Reads (Reader.sum inner) 2 ts e :=
  h.leftAssociated (by omega)

/-- The level of comparisons ends where nothing of it comes. -/
theorem comparisonChain_of_ends {rest : List Token} (h : Ends 3 rest) :
    comparisonChain inner e rest = some (e, rest) := by
  have hstep : comparisonStep inner e rest = some none := by
    unfold comparisonStep
    split
    · exact absurd (ends_cons.1 h) (by decide)
    · exact absurd (ends_cons.1 h) (by decide)
    · exact absurd (ends_cons.1 h) (by decide)
    · exact absurd (ends_cons.1 h) (by decide)
    · have := ends_cons.1 h
      rw [if_neg (by omega)]
    · rfl
  rw [comparisonChain.eq_def, hstep]

/-- What one step after the left operand reads, the level of comparisons reads. -/
theorem Reads.comparisonStep (h : Reads (Reader.sum inner) 2 ts e) {t : Token}
    {ts' : List Token} (ht : t.level = 3)
    (hstep : ∀ rest, Ends 3 rest →
      comparisonStep inner e (t :: ts' ++ rest) = some (some (e', rest))) :
    Reads (comparison inner) 3 (ts ++ t :: ts') e' := by
  intro rest hrest
  have hleft : Reader.sum inner (ts ++ (t :: ts' ++ rest)) = some (e, t :: ts' ++ rest) :=
    h _ (ends_cons.2 (by omega))
  unfold comparison
  rw [List.append_assoc, hleft]
  simp only
  rw [comparisonChain.eq_def, hstep rest hrest]
  simp only [List.length_append, List.length_cons]
  rw [if_pos (by omega)]
  exact comparisonChain_of_ends hrest

theorem Reads.comparison (h : Reads (Reader.sum inner) 2 ts e) :
    Reads (Reader.comparison inner) 3 ts e := by
  intro rest hrest
  unfold Reader.comparison
  rw [h rest (hrest.of_le (by omega))]
  exact comparisonChain_of_ends hrest

/-- Nothing on the level of comparisons starts with `NOT`. -/
theorem comparison_not (rest : List Token) : comparison inner (.keyword .NOT :: rest) = none := rfl

theorem Reads.negation (h : Reads (Reader.comparison inner) 3 ts e) :
    Reads (Reader.negation inner) 3 ts e := by
  intro rest hrest
  have hcomparison := h rest hrest
  rw [Reader.negation.eq_def]
  split
  · next heq =>
    rw [heq, comparison_not] at hcomparison
    cases hcomparison
  · exact hcomparison

theorem Reads.not (h : Reads (Reader.negation inner) 3 ts e) :
    Reads (Reader.negation inner) 3 (.keyword .NOT :: ts) (.unary .not e) := by
  intro rest hrest
  rw [List.cons_append, Reader.negation, h rest hrest]

theorem Reads.conjunction (h : Reads (Reader.negation inner) 3 ts e) :
    Reads (Reader.conjunction inner) 4 ts e :=
  h.leftAssociated (by omega)

theorem Reads.disjunction (h : Reads (Reader.conjunction inner) 4 ts e) :
    Reads (Reader.disjunction inner) 5 ts e :=
  h.leftAssociated (by omega)

/-! ### Primaries -/

/-- Parts that are read one by one are read as a list. -/
theorem items_intercalate {parts : List (List Token × Expr)} (hne : parts ≠ [])
    (h : ∀ part ∈ parts, Reads inner 5 part.1 part.2) (rest : List Token) :
    items inner (List.intercalate [.comma] (parts.map (·.1)) ++ .rightParen :: rest)
      = some (parts.map (·.2), rest) := by
  induction parts with
  | nil => exact absurd rfl hne
  | cons part parts ih =>
    have hpart := h part (by simp)
    cases parts with
    | nil =>
      have hread := hpart (.rightParen :: rest) (ends_cons.2 (by decide))
      rw [items.eq_def]
      simp only [List.map_cons, List.map_nil, List.intercalate_singleton, hread]
    | cons next parts =>
      have hrest := ih (by simp) fun p hp => h p (List.mem_cons_of_mem _ hp)
      have hread := hpart
        (.comma :: (List.intercalate [.comma] ((next :: parts).map (·.1)) ++ .rightParen :: rest))
        (ends_cons.2 (by decide))
      rw [items.eq_def]
      simp only [List.map_cons, List.intercalate_cons_cons, List.append_assoc, List.cons_append,
        List.nil_append] at hrest hread ⊢
      rw [hread]
      simp only [hrest, List.length_append, List.length_cons]
      rw [if_pos (by omega)]

variable {depth : Nat}

/-- No expression starts with a closing parenthesis. -/
theorem expression_rightParen (rest : List Token) :
    expression depth (.rightParen :: rest) = none := by
  cases depth <;> rfl

/-- No expression starts with `DISTINCT`. -/
theorem expression_distinct (rest : List Token) :
    expression depth (.keyword .DISTINCT :: rest) = none := by
  cases depth <;> rfl

/-- No arguments start with `DISTINCT`. -/
theorem arguments_distinct (rest : List Token) :
    arguments (expression depth) (.keyword .DISTINCT :: rest) = none := by
  show items (expression depth) _ = none
  rw [items.eq_def, expression_distinct]

theorem arguments_intercalate {parts : List (List Token × Expr)}
    (h : ∀ part ∈ parts, Reads (expression depth) 5 part.1 part.2) (rest : List Token) :
    arguments (expression depth)
        (List.intercalate [.comma] (parts.map (·.1)) ++ .rightParen :: rest)
      = some (parts.map (·.2), rest) := by
  cases parts with
  | nil => rfl
  | cons part parts =>
    have hitems := items_intercalate (by simp) h rest
    unfold arguments
    split
    · next heq =>
      rw [heq, items.eq_def, expression_rightParen] at hitems
      cases hitems
    · exact hitems

/-- A call, with arguments that are read one by one. -/
theorem reads_call {parts : List (List Token × Expr)} (function : String)
    (h : ∀ part ∈ parts, Reads (expression depth) 5 part.1 part.2) :
    Reads (primary (expression depth)) 0
      (.functionName function :: .leftParen :: List.intercalate [.comma] (parts.map (·.1))
        ++ [.rightParen])
      (.call function (parts.map (·.2)) false) := by
  intro rest _
  have hargs := arguments_intercalate h rest
  simp only [List.cons_append, List.append_assoc, List.nil_append, primary]
  unfold call
  split
  -- `DISTINCT` is no expression, so the first alternative does not apply
  · next heq =>
    rw [List.cons.injEq] at heq
    rw [heq.2, arguments_distinct] at hargs
    cases hargs
  · next heq =>
    rw [List.cons.injEq] at heq
    rw [← heq.2, hargs]
  · next hne => exact absurd rfl (hne _)

theorem reads_cast (h : Reads (expression depth) 5 ts e) (type : String) :
    Reads (primary (expression depth)) 0
      (.keyword .CAST :: .leftParen :: ts ++ [.keyword .AS, .typeName type, .rightParen])
      (.cast e type) := by
  intro rest _
  have hread := h (.keyword .AS :: .typeName type :: .rightParen :: rest)
    (ends_cons.2 (by decide))
  simp only [List.cons_append, List.append_assoc, List.nil_append, primary, cast, hread]

theorem reads_paren (h : Reads (expression depth) 5 ts e) :
    Reads (primary (expression depth)) 0 (.leftParen :: ts ++ [.rightParen]) (.paren e) := by
  intro rest _
  have hread := h (.rightParen :: rest) (ends_cons.2 (by decide))
  simp only [List.cons_append, List.append_assoc, List.nil_append, primary, parenthesized, hread]

/-- A `CASE` with one branch. -/
theorem reads_caseWhen {ts₁ ts₂ ts₃ : List Token} {c x y : Expr}
    (hc : Reads (expression depth) 5 ts₁ c) (hx : Reads (expression depth) 5 ts₂ x)
    (hy : Reads (expression depth) 5 ts₃ y) :
    Reads (primary (expression depth)) 0
      (.keyword .CASE :: .keyword .WHEN :: ts₁ ++ .keyword .THEN :: ts₂
        ++ .keyword .ELSE :: ts₃ ++ [.keyword .END])
      (.caseWhen c x y) := by
  intro rest _
  have helse := hy (.keyword .END :: rest) (ends_cons.2 (by decide))
  have hthen := hx (.keyword .ELSE :: (ts₃ ++ .keyword .END :: rest)) (ends_cons.2 (by decide))
  have hwhen := hc (.keyword .THEN :: (ts₂ ++ .keyword .ELSE :: (ts₃ ++ .keyword .END :: rest)))
    (ends_cons.2 (by decide))
  have hbranches : branches (expression depth)
      (.keyword .WHEN :: (ts₁ ++ .keyword .THEN ::
        (ts₂ ++ .keyword .ELSE :: (ts₃ ++ .keyword .END :: rest))))
      = some ([(c, x)], .keyword .ELSE :: (ts₃ ++ .keyword .END :: rest)) := by
    rw [branches]
    simp only [hwhen, hthen, List.length_append, List.length_cons]
    rw [if_pos (by omega), branches]
    simp
  simp only [List.cons_append, List.append_assoc, List.nil_append, primary, caseOf, caseOperand,
    hbranches, otherwise, helse]
  rfl

end Reader

end TransactSql.Sql
