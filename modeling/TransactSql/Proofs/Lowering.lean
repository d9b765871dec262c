import Mathlib.Data.List.Forall2
import Mathlib.Tactic.Common
import TransactSql.Compile.Scope

/-!
# Computations that note parameters

What is computed in a scope can be said without the scope, if the aliases are given and the
parameters that are met are only noted, by their names. A `Lowering` is such a computation: a result
or an error, and the names. What was noted before an error stays noted.

A lowering has a result when each of its parts has one, and then its notes are those of its parts.
The lemmas here take it apart: a sequence into its two parts, a traversal of a list into its items,
and a fold into what every step keeps. Where it matters only whether there is a result, a sequence,
a traversal and a fold have one when all parts do.
-/

namespace TransactSql

variable {α β : Type}

/-- A sequence that can fail succeeds when both of its parts do. -/
theorem exceptBind_eq_ok {ε : Type} {x : Except ε α} {f : α → Except ε β} {b : β} :
    (x >>= f) = .ok b ↔ ∃ a, x = .ok a ∧ f a = .ok b := by
  cases x with
  | error e => simp [bind, Except.bind]
  | ok a => simp [bind, Except.bind]

/-- Of two lists that are related item by item, an item of the second is related to one of the
first. -/
theorem exists_of_mem_forall₂ {R : α → β → Prop} {l : List α} {r : List β}
    (h : List.Forall₂ R l r) {b : β} (hb : b ∈ r) : ∃ a ∈ l, R a b := by
  induction h with
  | nil => cases hb
  | @cons a _ _ _ hab _ ih =>
    rcases List.mem_cons.1 hb with rfl | hb
    · exact ⟨a, by simp, hab⟩
    · obtain ⟨a', ha', hab'⟩ := ih hb
      exact ⟨a', List.mem_cons_of_mem _ ha', hab'⟩

/-- A result and the parameters noted on the way to it, the first noted first. -/
structure Lowering (α : Type) where
  result : Except CompileError α
  noted : List String

namespace Lowering

/-- Goes on with a result. An error ends the computation and keeps the notes. -/
def andThen (x : Lowering α) (f : α → Lowering β) : Lowering β :=
  match x.result with
  | .ok a => ⟨(f a).result, x.noted ++ (f a).noted⟩
  | .error e => ⟨.error e, x.noted⟩

instance : Monad Lowering where
  pure a := ⟨.ok a, []⟩
  bind := andThen

/-- Ends with an error. -/
def fail (e : CompileError) : Lowering α :=
  ⟨.error e, []⟩

/-- Ends with a shape that no statement can express. -/
def invalid (shape : InvalidShape) : Lowering α :=
  fail (.invalidExpression shape)

/-- Takes over a result that notes nothing. -/
def ofExcept (x : Except CompileError α) : Lowering α :=
  ⟨x, []⟩

/-- Notes a parameter. -/
def note (name : String) : Lowering Unit :=
  if isParamName name then ⟨.ok (), [name]⟩ else invalid (.paramName name)

/-! ## Results -/

@[simp]
theorem result_pure (a : α) : (pure a : Lowering α).result = .ok a := rfl

@[simp]
theorem result_ofExcept (x : Except CompileError α) : (ofExcept x).result = x := rfl

@[simp]
theorem result_fail (e : CompileError) : (fail e : Lowering α).result = .error e := rfl

@[simp]
theorem result_invalid (shape : InvalidShape) :
    (invalid shape : Lowering α).result = .error (.invalidExpression shape) := rfl

/-- A sequence has a result when its first part has one and the second part, given that, has. -/
@[simp]
theorem result_bind_eq_ok {x : Lowering α} {f : α → Lowering β} {b : β} :
    (x >>= f).result = .ok b ↔ ∃ a, x.result = .ok a ∧ (f a).result = .ok b := by
  show (andThen x f).result = .ok b ↔ _
  unfold andThen
  cases x.result with
  | error e => simp
  | ok a => simp

/-- A sequence whose first part fails is over. -/
theorem bind_of_error {x : Lowering α} {f : α → Lowering β} {e : CompileError}
    (h : x.result = .error e) : x >>= f = ⟨.error e, x.noted⟩ := by
  show andThen x f = _
  unfold andThen
  rw [h]

/-- A sequence whose first part has a result has the result of the second part. -/
theorem bind_of_ok {x : Lowering α} {f : α → Lowering β} {a : α} (h : x.result = .ok a) :
    x >>= f = ⟨(f a).result, x.noted ++ (f a).noted⟩ := by
  show andThen x f = _
  unfold andThen
  rw [h]

/-- A parameter is noted when its name can follow an at sign. -/
@[simp]
theorem result_note_eq_ok {name : String} {u : Unit} :
    (note name).result = .ok u ↔ isParamName name := by
  unfold note
  split
  · next h => simp [h]
  · next h => simp [h]

/-! ## Notes -/

@[simp]
theorem noted_pure (a : α) : (pure a : Lowering α).noted = [] := rfl

@[simp]
theorem noted_ofExcept (x : Except CompileError α) : (ofExcept x).noted = [] := rfl

/-- A sequence whose first part has a result notes what both parts note. -/
theorem noted_bind {x : Lowering α} {f : α → Lowering β} {a : α} (h : x.result = .ok a) :
    (x >>= f).noted = x.noted ++ (f a).noted := by
  rw [bind_of_ok h]

/-- A check before a computation notes nothing. -/
theorem noted_ofExcept_bind {x : Except CompileError α} {f : α → Lowering β} {a : α}
    (h : x = .ok a) : (ofExcept x >>= f).noted = (f a).noted := by
  rw [noted_bind (x := ofExcept x) h, noted_ofExcept, List.nil_append]

theorem noted_note {name : String} (h : isParamName name) : (note name).noted = [name] := by
  unfold note
  rw [if_pos h]

/-! ## Laws -/

/-- Going on after going on is going on with both. -/
theorem andThen_assoc {γ : Type} (x : Lowering α) (f : α → Lowering β) (g : β → Lowering γ) :
    (x.andThen f).andThen g = x.andThen fun a => (f a).andThen g := by
  obtain ⟨result, noted⟩ := x
  cases result with
  | error e => rfl
  | ok a =>
    simp only [andThen]
    cases (f a).result with
    | error e => rfl
    | ok b => simp

/-- Going on with a plain result changes nothing. -/
theorem andThen_pure (x : Lowering α) : x.andThen pure = x := by
  obtain ⟨result, noted⟩ := x
  cases result with
  | error e => rfl
  | ok a =>
    simp only [andThen]
    show (⟨.ok a, noted ++ []⟩ : Lowering α) = _
    rw [List.append_nil]

instance : LawfulMonad Lowering :=
  LawfulMonad.mk' Lowering andThen_pure (fun _ _ => rfl) andThen_assoc

/-! ## Lists -/

/-- The notes of a traversal are those at its items. -/
theorem noted_mapM {f : α → Lowering β} {l : List α} {r : List β}
    (h : (l.mapM f).result = .ok r) : (l.mapM f).noted = l.flatMap fun a => (f a).noted := by
  induction l generalizing r with
  | nil => rfl
  | cons a rest ih =>
    rw [List.mapM_cons] at h ⊢
    simp only [result_bind_eq_ok] at h
    obtain ⟨b, hb, bs, hbs, -⟩ := h
    rw [noted_bind hb, noted_bind hbs, ih hbs, noted_pure, List.append_nil, List.flatMap_cons]

/-- The items of a traversal's result are those at the items of the list, one by one. -/
theorem forall₂_of_mapM {f : α → Lowering β} {l : List α} {r : List β}
    (h : (l.mapM f).result = .ok r) : List.Forall₂ (fun a b => (f a).result = .ok b) l r := by
  induction l generalizing r with
  | nil =>
    rw [List.mapM_nil, result_pure] at h
    cases h
    exact .nil
  | cons a rest ih =>
    rw [List.mapM_cons] at h
    simp only [result_bind_eq_ok, result_pure, Except.ok.injEq] at h
    obtain ⟨b, hb, bs, hbs, rfl⟩ := h
    exact .cons hb (ih hbs)

/-- A fold in which only the items have effects: traverse the list first, then fold. -/
theorem foldlM_eq_mapM {γ : Type} (g : α → Lowering γ) (step : β → γ → β) (l : List α) (s : β) :
    (l.foldlM (fun s a => do return step s (← g a)) s : Lowering β) =
      (do return (← l.mapM g).foldl step s) := by
  induction l generalizing s with
  | nil => rfl
  | cons a rest ih =>
    simp only [List.foldlM_cons, List.mapM_cons, bind_assoc, pure_bind, List.foldl_cons, ih]

/-- Every item of a traversal's result comes from an item of the list. -/
theorem exists_of_mem_mapM {f : α → Lowering β} {l : List α} {r : List β}
    (h : (l.mapM f).result = .ok r) : ∀ b ∈ r, ∃ a ∈ l, (f a).result = .ok b :=
  fun _ hb => exists_of_mem_forall₂ (forall₂_of_mapM h) hb

/-- What every step of a fold keeps, the fold keeps. -/
theorem foldlM_invariant {P : β → Prop} {f : β → α → Lowering β} {l : List α} {s t : β}
    (step : ∀ a ∈ l, ∀ s t, P s → (f s a).result = .ok t → P t)
    (hs : P s) (h : (l.foldlM f s).result = .ok t) : P t := by
  induction l generalizing s with
  | nil =>
    rw [List.foldlM_nil, result_pure] at h
    cases h
    exact hs
  | cons a rest ih =>
    rw [List.foldlM_cons, result_bind_eq_ok] at h
    obtain ⟨u, hu, ht⟩ := h
    refine ih (fun a' ha' => step a' (List.mem_cons_of_mem _ ha')) ?_ ht
    exact step a (by simp) s u hs hu

/-! ## Whether there is a result -/

/-- A sequence in which it does not depend on the result of the first part whether the second part
has one. -/
theorem exists_result_bind {x : Lowering α} {f : α → Lowering β} {P : Prop}
    (h : ∀ a, x.result = .ok a → ((∃ b, (f a).result = .ok b) ↔ P)) :
    (∃ b, (x >>= f).result = .ok b) ↔ (∃ a, x.result = .ok a) ∧ P := by
  simp only [result_bind_eq_ok]
  constructor
  · rintro ⟨b, a, ha, hb⟩
    exact ⟨⟨a, ha⟩, (h a ha).1 ⟨b, hb⟩⟩
  · rintro ⟨⟨a, ha⟩, hP⟩
    obtain ⟨b, hb⟩ := (h a ha).2 hP
    exact ⟨b, a, ha, hb⟩

/-- A computation whose result is only wrapped. -/
theorem exists_result_bind_pure {x : Lowering α} {f : α → β} :
    (∃ b, (do return f (← x) : Lowering β).result = .ok b) ↔ ∃ a, x.result = .ok a := by
  rw [exists_result_bind fun a _ => iff_true_intro ⟨f a, rfl⟩, and_true]

/-- A traversal has a result when it has one at every item. -/
theorem exists_result_mapM {f : α → Lowering β} {l : List α} :
    (∃ r, (l.mapM f).result = .ok r) ↔ ∀ a ∈ l, ∃ b, (f a).result = .ok b := by
  induction l with
  | nil => simp
  | cons a rest ih =>
    rw [List.mapM_cons, List.forall_mem_cons, ← ih]
    exact exists_result_bind fun b _ => exists_result_bind_pure

/-- A fold has a result when every item can be taken, in whatever state. -/
theorem exists_result_foldlM {f : β → α → Lowering β} {P : α → Prop} {l : List α} {s : β}
    (h : ∀ s a, (∃ t, (f s a).result = .ok t) ↔ P a) :
    (∃ t, (l.foldlM f s).result = .ok t) ↔ ∀ a ∈ l, P a := by
  induction l generalizing s with
  | nil => simp
  | cons a rest ih =>
    rw [List.foldlM_cons, List.forall_mem_cons, ← h s a]
    exact exists_result_bind fun t _ => ih

end Lowering

end TransactSql
