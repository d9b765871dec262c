import Mathlib.Tactic.Common
import TransactSql.Proofs.ReadBack
import TransactSql.Sql.Select

/-!
# Truth of conditions

A condition is true, false or unknown. The truth of a condition follows from the truth of its atoms,
which are all expressions other than `AND`, `OR`, `NOT` and parentheses, by the three-valued
connectives of SQL. So parentheses do not matter for the truth of an expression that is given as a
tree; they matter for which tree is read from a text.
-/

namespace TransactSql

open Sql (Expr BinaryOp)

/-- What a condition can be. -/
inductive Truth where
  | false | unknown | true
deriving DecidableEq, Repr, Inhabited

namespace Truth

/-- False if one of the two is, and true if both are. -/
def and : Truth → Truth → Truth
  | false, _ | _, false => false
  | true, b => b
  | unknown, _ => unknown

/-- True if one of the two is, and false if both are. -/
def or : Truth → Truth → Truth
  | true, _ | _, true => true
  | false, b => b
  | unknown, _ => unknown

/-- The opposite, where there is one. -/
def not : Truth → Truth
  | false => true
  | unknown => unknown
  | true => false

/-- The conjunction of a list. -/
def all : List Truth → Truth :=
  List.foldr and true

@[simp]
theorem true_and (a : Truth) : and true a = a := by
  cases a <;> rfl

@[simp]
theorem and_true (a : Truth) : and a true = a := by
  cases a <;> rfl

theorem and_assoc (a b c : Truth) : and (and a b) c = and a (and b c) := by
  cases a <;> cases b <;> cases c <;> rfl

@[simp]
theorem all_nil : all [] = true := rfl

@[simp]
theorem all_cons (a : Truth) (as : List Truth) : all (a :: as) = and a (all as) := rfl

instance : Std.Associative Truth.and :=
  ⟨and_assoc⟩

end Truth

namespace Sql.Expr

/-! ## Connectives and atoms -/

section

variable {α : Type} (and or : α → α → α) (not : α → α) (atom : Expr → α)

/-- Folds a condition over its connectives, from what is given for its atoms. -/
def foldCondition : Expr → α
  | .binary x .and y => and x.foldCondition y.foldCondition
  | .binary x .or y => or x.foldCondition y.foldCondition
  | .unary .not x => not x.foldCondition
  | .paren x => x.foldCondition
  | x => atom x

theorem foldCondition_nested (x : Expr) :
    x.nested.foldCondition and or not atom = x.foldCondition and or not atom := by
  unfold nested
  split <;> rfl

theorem foldCondition_conjunct (x : Expr) :
    x.conjunct.foldCondition and or not atom = x.foldCondition and or not atom := by
  unfold conjunct
  split <;> rfl

/-- What is written for an atom is an atom. -/
theorem foldCondition_readBack (x : Expr) :
    x.readBack.foldCondition and or not atom =
      x.foldCondition and or not fun a => atom a.readBack := by
  induction x using foldCondition.induct with
  | case1 x y ihx ihy => rw [readBack, foldCondition, foldCondition, ihx, ihy]
  | case2 x y ihx ihy => rw [readBack, foldCondition, foldCondition, ihx, ihy]
  | case3 x ih => rw [readBack, foldCondition, foldCondition, ih]
  | case4 x ih => rw [readBack, foldCondition, foldCondition, ih]
  | case5 x hand hor hnot hparen =>
    cases x with
    | binary x op y =>
      cases op with
      | and => exact absurd rfl (hand x y)
      | or => exact absurd rfl (hor x y)
      | _ => rfl
    | unary op x =>
      cases op with
      | not => exact absurd rfl (hnot x)
      | minus => rfl
    | paren x => exact absurd rfl (hparen x)
    | isIn x values negated =>
      cases values with
      | nil => cases negated <;> rfl
      | cons v values => rfl
    | _ => rfl

end

/-- The truth of a condition, given that of its atoms. -/
def truth (assignment : Expr → Truth) : Expr → Truth :=
  foldCondition .and .or .not assignment

/-- The comparisons, `IN` and `IS NULL`. -/
def isAtomic : Expr → Bool
  | .binary _ op _ => op.isComparison
  | .isIn .. | .isNull .. => true
  | _ => false

/-- Whether all atoms of a condition are comparisons, `IN` or `IS NULL`. -/
def isCondition : Expr → Bool :=
  foldCondition (· && ·) (· && ·) id isAtomic

variable {assignment : Expr → Truth}

@[simp]
theorem truth_and (x y : Expr) :
    (Expr.binary x .and y).truth assignment = (x.truth assignment).and (y.truth assignment) := rfl

@[simp]
theorem truth_nested (x : Expr) : x.nested.truth assignment = x.truth assignment :=
  x.foldCondition_nested ..

@[simp]
theorem truth_conjunct (x : Expr) : x.conjunct.truth assignment = x.truth assignment :=
  x.foldCondition_conjunct ..

/-- Membership in an empty list has the truth of the comparison that it is written as. -/
theorem truth_readBack (x : Expr) :
    x.readBack.truth assignment = x.truth fun atom => assignment atom.readBack :=
  x.foldCondition_readBack ..

@[simp]
theorem isCondition_and (x y : Expr) :
    (Expr.binary x .and y).isCondition = (x.isCondition && y.isCondition) := rfl

@[simp]
theorem isCondition_or (x y : Expr) :
    (Expr.binary x .or y).isCondition = (x.isCondition && y.isCondition) := rfl

@[simp]
theorem isCondition_nested (x : Expr) : x.nested.isCondition = x.isCondition :=
  x.foldCondition_nested ..

@[simp]
theorem isCondition_conjunct (x : Expr) : x.conjunct.isCondition = x.isCondition :=
  x.foldCondition_conjunct ..

@[simp]
theorem isAtomic_readBack (x : Expr) : x.readBack.isAtomic = x.isAtomic := by
  cases x with
  | isIn x values negated =>
    cases values with
    | nil => cases negated <;> rfl
    | cons v values => rfl
  | _ => rfl

theorem isCondition_readBack (x : Expr) : x.readBack.isCondition = x.isCondition := by
  unfold isCondition
  rw [foldCondition_readBack]
  simp only [isAtomic_readBack]

end Sql.Expr

/-- What lowering gives as a condition has comparisons, `IN` and `IS NULL` as its atoms. -/
theorem Lowered.isCondition {x : Expr} (h : Lowered .condition x) : x.isCondition := by
  generalize hrole : Role.condition = role at h
  induction h with
  | @comparison op x y hop _ _ _ _ =>
    cases op with
    | eq | ne | lt | gt | le | ge => rfl
    | _ => cases hop
  | @connective op x y hop _ _ ihx ihy =>
    cases op with
    | and | or => simp [ihx hrole, ihy hrole]
    | _ => cases hop
  | negation _ ih => exact ih hrole
  | membership => rfl
  | nullTest => rfl
  | _ => cases hrole

end TransactSql
