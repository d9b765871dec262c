import Mathlib.Data.List.Basic
import Mathlib.Tactic.Common
import TransactSql.Proofs.Threading
import TransactSql.Sql.Select

/-!
# The expressions in a statement

`Expr.subterms` lists an expression with everything in it, at every depth, in the order of
writing; `Select.subterms` does so for all clauses of a statement. Of these the columns and the
parameters, called references, are what binds a statement to its tables and to its parameters.
Parentheses, casts and the like change no references, and the lemmas here say so shape by shape.

`Expr.induct` is the induction that proofs about all expressions use: operands stand in lists, in
options and in branches, and each of them has the property.
-/

namespace TransactSql.Sql

namespace Expr

/-! ## Induction -/

/-- Induction on expressions: an expression has what all expressions directly in it have. -/
@[elab_as_elim]
theorem induct {P : Expr → Prop} (column : ∀ table name, P (.column table name))
    (literal : ∀ value, P (.literal value)) (param : ∀ name, P (.param name))
    (binary : ∀ left op right, P left → P right → P (.binary left op right))
    (unary : ∀ op operand, P operand → P (.unary op operand))
    (call : ∀ function args distinct, (∀ a ∈ args, P a) → P (.call function args distinct))
    (case : ∀ operand branches otherwise, (∀ x ∈ operand, P x) →
      (∀ b ∈ branches, P b.1 ∧ P b.2) → (∀ x ∈ otherwise, P x) →
      P (.case operand branches otherwise))
    (cast : ∀ operand type, P operand → P (.cast operand type))
    (isIn : ∀ operand values negated, P operand → (∀ v ∈ values, P v) →
      P (.isIn operand values negated))
    (isNull : ∀ operand negated, P operand → P (.isNull operand negated))
    (star : ∀ table, P (.star table)) (paren : ∀ inner, P inner → P (.paren inner))
    (raw : ∀ text, P (.raw text)) (x : Expr) : P x := by
  refine @Expr.rec P (fun args => ∀ a ∈ args, P a) (fun operand => ∀ x ∈ operand, P x)
    (fun branches => ∀ b ∈ branches, P b.1 ∧ P b.2) (fun b => P b.1 ∧ P b.2)
    column literal param binary unary call case cast isIn isNull star paren raw
    ?_ ?_ ?_ ?_ ?_ ?_ ?_ x
  · simp
  · intro a args ha hargs
    exact List.forall_mem_cons.2 ⟨ha, hargs⟩
  · simp
  · intro a ha
    simpa using ha
  · simp
  · intro b branches hb hbranches
    exact List.forall_mem_cons.2 ⟨hb, hbranches⟩
  · intro condition value hcondition hvalue
    exact ⟨hcondition, hvalue⟩

/-! ## Subterms -/

mutual

/-- An expression and all expressions in it, each before what is in it, and from left to right. -/
def subterms : Expr → List Expr
  | column table name => [column table name]
  | literal value => [literal value]
  | param name => [param name]
  | binary left op right => binary left op right :: (left.subterms ++ right.subterms)
  | unary op operand => unary op operand :: operand.subterms
  | call function args distinct => call function args distinct :: subtermsOfList args
  | case operand branches otherwise =>
    case operand branches otherwise ::
      (subtermsOfOption operand ++ subtermsOfBranches branches ++ subtermsOfOption otherwise)
  | cast operand type => cast operand type :: operand.subterms
  | isIn operand values negated =>
    isIn operand values negated :: (operand.subterms ++ subtermsOfList values)
  | isNull operand negated => isNull operand negated :: operand.subterms
  | star table => [star table]
  | paren inner => paren inner :: inner.subterms
  | raw text => [raw text]

/-- `subterms` for each expression of a list. -/
def subtermsOfList : List Expr → List Expr
  | [] => []
  | x :: rest => x.subterms ++ subtermsOfList rest

/-- `subterms` for an expression that may be absent. -/
def subtermsOfOption : Option Expr → List Expr
  | none => []
  | some x => x.subterms

/-- `subterms` for the branches of a `CASE`. -/
def subtermsOfBranches : List (Expr × Expr) → List Expr
  | [] => []
  | (condition, value) :: rest => condition.subterms ++ value.subterms ++ subtermsOfBranches rest

end

theorem subtermsOfList_eq_flatMap (args : List Expr) :
    subtermsOfList args = args.flatMap subterms := by
  induction args with
  | nil => rfl
  | cons x rest ih => rw [subtermsOfList, ih, List.flatMap_cons]

/-! ## References -/

/-- Whether an expression is a column or a parameter. -/
def isReference : Expr → Bool
  | column .. | param .. => true
  | _ => false

/-- The columns and the parameters in an expression, in the order of writing. -/
def references (x : Expr) : List Expr :=
  x.subterms.filter isReference

theorem mem_references {x y : Expr} (hy : y ∈ x.subterms) (h : y.isReference) :
    y ∈ x.references :=
  List.mem_filter.2 ⟨hy, h⟩

@[simp]
theorem references_column (table : Option String) (name : String) :
    (column table name).references = [column table name] := rfl

@[simp]
theorem references_literal (value : Literal) : (literal value).references = [] := rfl

@[simp]
theorem references_int (n : Int64) : (int n).references = [] := rfl

@[simp]
theorem references_param (name : String) : (param name).references = [param name] := rfl

@[simp]
theorem references_raw (text : String) : (raw text).references = [] := rfl

@[simp]
theorem references_star (table : Option String) : (star table).references = [] := rfl

@[simp]
theorem references_binary (x : Expr) (op : BinaryOp) (y : Expr) :
    (binary x op y).references = x.references ++ y.references :=
  List.filter_append ..

@[simp]
theorem references_unary (op : UnaryOp) (x : Expr) :
    (unary op x).references = x.references := rfl

@[simp]
theorem references_function (name : String) (args : List Expr) :
    (function name args).references = args.flatMap references := by
  have hargs : (args.flatMap subterms).filter isReference = args.flatMap references :=
    List.filter_flatMap
  rw [references, function, subterms, subtermsOfList_eq_flatMap]
  simpa [isReference] using hargs

@[simp]
theorem references_caseWhen (c x y : Expr) :
    (caseWhen c x y).references = c.references ++ x.references ++ y.references := by
  simp [caseWhen, references, subterms, subtermsOfOption, subtermsOfBranches, isReference]

@[simp]
theorem references_cast (x : Expr) (type : String) : (cast x type).references = x.references :=
  rfl

@[simp]
theorem references_isIn (x : Expr) (values : List Expr) (negated : Bool) :
    (isIn x values negated).references = x.references ++ values.flatMap references := by
  have hvalues : (values.flatMap subterms).filter isReference = values.flatMap references :=
    List.filter_flatMap
  rw [references, subterms, subtermsOfList_eq_flatMap]
  simpa [isReference, references] using hvalues

@[simp]
theorem references_isNull (x : Expr) (negated : Bool) :
    (isNull x negated).references = x.references := rfl

@[simp]
theorem references_paren (x : Expr) : (paren x).references = x.references := rfl

@[simp]
theorem references_nested (x : Expr) : x.nested.references = x.references := by
  unfold nested
  split
  · exact references_paren _
  · exact references_paren _
  · rfl

@[simp]
theorem references_conjunct (x : Expr) : x.conjunct.references = x.references := by
  unfold conjunct
  split
  · exact references_paren _
  · rfl

@[simp]
theorem references_minusOperand (x : Expr) :
    (Lower.minusOperand x).references = x.references := by
  unfold Lower.minusOperand
  split
  · rfl
  · rfl
  · rfl
  · exact references_paren _

end Expr

/-! ## Statements -/

namespace Select

/-- The expressions of all clauses, in the order of writing. -/
def exprs (s : Select) : List Expr :=
  s.items.map (·.expr) ++ s.joins.flatMap (·.condition.toList) ++ s.condition.toList ++ s.groupBy
    ++ s.having.toList ++ s.orderBy.map (·.expr)

/-- All expressions that occur anywhere in a statement. -/
def subterms (s : Select) : List Expr :=
  s.exprs.flatMap Expr.subterms

/-- The columns and the parameters in a statement, in the order of writing. -/
def references (s : Select) : List Expr :=
  s.subterms.filter Expr.isReference

theorem references_eq_flatMap (s : Select) : s.references = s.exprs.flatMap Expr.references :=
  List.filter_flatMap

/-- A parameter occurs in a statement when it is one of the references. -/
theorem param_mem_references {s : Select} {name : String} :
    Expr.param name ∈ s.references ↔ Expr.param name ∈ s.subterms := by
  unfold references
  rw [List.mem_filter]
  exact and_iff_left rfl

/-- The tables of a statement: the one that it is from, then those that it joins. -/
def tables (s : Select) : List TableRef :=
  s.source.toList ++ s.joins.map (·.table)

end Select

end TransactSql.Sql
