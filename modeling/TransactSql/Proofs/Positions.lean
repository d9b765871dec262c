import Mathlib
import TransactSql.Proofs.Evaluation

/-!
# Positions in texts

Expressions count the characters of a text from zero, and the functions of the server count them
from one. A search takes one off what `CHARINDEX` answers, which also makes its zero for an absent
text into -1. A cut adds one to its start: to the literal itself if that is possible, and to the
value of the lowered start otherwise.

What the server's functions and its arithmetic yield is assumed where it is needed
(`Semantics.ExactNumbers` and what follows it). Values are those of what is read from the tokens of
a lowered expression, so that missing parentheses would show. `positions_count_from_zero` says that
the two corrections give positions from zero, and that they cancel when a search is the start of a
cut. The start of a search gets no correction: it counts from one (`search_starts_from_one`).
-/

namespace TransactSql

open Sql (Expr readExpr)

/-! ## Occurrences -/

/-- A text stands in another one at a position, counted from zero. -/
def OccursAt (needle haystack : List Char) (i : Int) : Prop :=
  ∃ before after, haystack = before ++ needle ++ after ∧ (before.length : Int) = i

/-- What is answered for a set of positions: the least one, or `absent` where there is none. -/
def Answers (positions : Set Int) (absent answer : Int) : Prop :=
  IsLeast positions answer ∨ positions = ∅ ∧ answer = absent

namespace OccursAt

variable {needle haystack : List Char} {i : Int}

theorem nonneg (h : OccursAt needle haystack i) : 0 ≤ i := by
  obtain ⟨before, after, -, rfl⟩ := h
  omega

/-- From where a text stands on, its characters are the text. -/
theorem take_drop (h : OccursAt needle haystack i) :
    (haystack.drop i.toNat).take needle.length = needle := by
  obtain ⟨before, after, rfl, rfl⟩ := h
  rw [Int.toNat_natCast, List.append_assoc, List.drop_left, List.take_left]

theorem iff_isPrefix : OccursAt needle haystack i ↔
    0 ≤ i ∧ i ≤ haystack.length ∧ needle <+: haystack.drop i.toNat := by
  constructor
  · rintro ⟨before, after, rfl, rfl⟩
    refine ⟨by omega, ?_, after, ?_⟩
    · simp only [List.length_append]
      omega
    · rw [Int.toNat_natCast, List.append_assoc, List.drop_left]
  · rintro ⟨hnonneg, hle, after, hafter⟩
    refine ⟨haystack.take i.toNat, after, ?_, ?_⟩
    · rw [List.append_assoc, hafter, List.take_append_drop]
    · rw [List.length_take]
      omega

instance : Decidable (OccursAt needle haystack i) :=
  decidable_of_iff _ iff_isPrefix.symm

/-- The one position that is looked at from `p`, counted from one, and lies before `p`, counted from
zero, is `p - 1`. -/
theorem setOf_from_pred {p : Int} (hp : 0 ≤ p)
    (hbefore : p = 0 ∨ ¬ OccursAt needle haystack (p - 1)) :
    {j | max p 1 - 1 ≤ j ∧ OccursAt needle haystack j} =
      {j | p ≤ j ∧ OccursAt needle haystack j} := by
  ext j
  simp only [Set.mem_ofPred_eq, and_congr_left_iff]
  intro hoccurs
  have hnonneg := hoccurs.nonneg
  constructor
  · intro hle
    by_contra hlt
    obtain rfl : j = p - 1 := by omega
    rcases hbefore with rfl | hnot
    · omega
    · exact hnot hoccurs
  · omega

theorem exists_of_isInfix (h : needle <:+: haystack) : ∃ i, OccursAt needle haystack i := by
  obtain ⟨before, after, rfl⟩ := h
  exact ⟨before.length, before, after, rfl, rfl⟩

end OccursAt

namespace Answers

variable {positions : Set Int} {absent answer i : Int}

/-- Positions counted from one less, with the answer. -/
theorem pred (h : Answers positions absent answer) :
    Answers {i | i + 1 ∈ positions} (absent - 1) (answer - 1) := by
  rcases h with ⟨hmem, hleast⟩ | ⟨hempty, rfl⟩
  · refine .inl ⟨?_, ?_⟩
    · simpa using hmem
    · intro i hi
      have := hleast hi
      omega
  · exact .inr ⟨by simp [hempty], rfl⟩

theorem isLeast_of_mem (h : Answers positions absent answer) (hi : i ∈ positions) :
    IsLeast positions answer := by
  rcases h with hleast | ⟨hempty, -⟩
  · exact hleast
  · simp [hempty] at hi

end Answers

/-! ## Values of lowered expressions -/

namespace Semantics

variable {Row V : Type} (M : Semantics Row V)

/-- An expression is lowered in a scope, and what is read from the tokens of its lowered form has a
value on a row. -/
def Yields (scope : Scope) (row : Row) (e : Scalar) (v : V) : Prop :=
  ∃ x, (scope.lower .value e).1 = .ok x ∧
    ∃ read, readExpr (x.tokens.filter fun t => !t.isBlank) = some read ∧
      M.value row read = some v

/-! ### What the server does -/

section

variable (text : List Char → V) (number : Int → V)

/-- Whole numbers are added and subtracted exactly. -/
structure ExactNumbers : Prop where
  literal : ∀ n : Int64, M.literal (.int n) = some (number n.toInt)
  plus : ∀ a b, M.operator .plus (some (number a)) (some (number b)) = some (number (a + b))
  minus : ∀ a b, M.operator .minus (some (number a)) (some (number b)) = some (number (a - b))

/-- `CHARINDEX(needle, haystack)` is the first position of the needle, counted from one, or zero. -/
def SearchesFromOne : Prop :=
  ∀ needle haystack, ∃ p,
    M.function "charindex" [some (text needle), some (text haystack)] = some (number p) ∧
      Answers {p | OccursAt needle haystack (p - 1)} 0 p

/-- `CHARINDEX(needle, haystack, start)` is the first such position that is not before `start`. -/
def SearchesOnward : Prop :=
  ∀ needle haystack start, ∃ p,
    M.function "charindex" [some (text needle), some (text haystack), some (number start)] =
        some (number p) ∧
      Answers {p | max start 1 ≤ p ∧ OccursAt needle haystack (p - 1)} 0 p

/-- `SUBSTRING(s, p, l)` is what `s` has from position `p` on, counted from one, of at most `l`
characters. -/
def CutsFromOne : Prop :=
  ∀ s p l, 1 ≤ p → 0 ≤ l →
    M.function "substring" [some (text s), some (number p), some (number l)] =
      some (text ((s.drop (p - 1).toNat).take l.toNat))

end

/-! ### Reading and operands -/

variable {M} {scope : Scope} {row : Row}

theorem values_eq_map (xs : List Expr) : M.values row xs = xs.map (M.value row) := by
  induction xs with
  | nil => rfl
  | cons x xs ih => rw [values, ih, List.map_cons]

@[simp]
theorem value_nested_readBack (x : Expr) :
    M.value row x.nested.readBack = M.value row x.readBack := by
  unfold Expr.nested
  split <;> rfl

/-- A lowered expression is read as it was written. -/
theorem yields_iff {e : Scalar} {v : V} : M.Yields scope row e v ↔
    ∃ x, (Lower.lower scope.aliases .value e).result = .ok x ∧ M.value row x.readBack = some v := by
  constructor
  · rintro ⟨x, hx, read, hread, hv⟩
    rw [scope.lower_fst] at hx
    obtain rfl : x.readBack = read :=
      Option.some.inj ((Lower.lowered_of_lower hx).readExpr_words.symm.trans hread)
    exact ⟨x, hx, hv⟩
  · rintro ⟨x, hx, hv⟩
    refine ⟨x, ?_, x.readBack, (Lower.lowered_of_lower hx).readExpr_words, hv⟩
    rw [scope.lower_fst]
    exact hx

theorem Yields.unique {e : Scalar} {v w : V} (hv : M.Yields scope row e v)
    (hw : M.Yields scope row e w) : v = w := by
  obtain ⟨x, hx, hv⟩ := yields_iff.1 hv
  obtain ⟨y, hy, hw⟩ := yields_iff.1 hw
  cases hx.symm.trans hy
  exact Option.some.inj (hv.symm.trans hw)

/-- The values of operands are those of the lowered operands. -/
theorem forall₂_of_yields {args : List Scalar} {vs : List V}
    (h : List.Forall₂ (M.Yields scope row) args vs) :
    ∃ operands, List.Forall₂ (fun a x => (Lower.lower scope.aliases .value a).result = .ok x)
        args operands ∧
      operands.map (fun x => M.value row x.readBack) = vs.map some := by
  induction h with
  | nil => exact ⟨[], .nil, rfl⟩
  | cons hfirst _ ih =>
    obtain ⟨x, hx, hv⟩ := yields_iff.1 hfirst
    obtain ⟨operands, hoperands, hvalues⟩ := ih
    exact ⟨x :: operands, .cons hx hoperands, by rw [List.map_cons, List.map_cons, hv, hvalues]⟩

end Semantics

/-! ## Lowered searches and cuts -/

namespace Lower

variable {aliases : Aliases}

/-- Operands that are all taken as values. -/
theorem result_lowerOperands_values {handler : Handler}
    (hrole : ∀ i, operandRole handler i = .value) {args : List Scalar} {operands : List Expr}
    (h : List.Forall₂ (fun a x => (lower aliases .value a).result = .ok x) args operands)
    (position : Nat) : (lowerOperands aliases handler position args).result = .ok operands := by
  induction h generalizing position with
  | nil => rfl
  | cons hfirst _ ih =>
    simp only [lowerOperands, hrole, Lowering.result_bind_eq_ok, Lowering.result_pure]
    exact ⟨_, hfirst, _, ih (position + 1), rfl⟩

/-- An operation with a form that takes values is lowered to what the form makes of its operands. -/
theorem result_lower_special {kind : Operation} {form : SpecialForm} {args : List Scalar}
    {operands : List Expr} {e : Expr} (hpredicate : kind.isPredicate = false)
    (hget : Registry.server.get? kind = some (.special form))
    (hrole : ∀ i, operandRole (.special form) i = .value)
    (hnode : checkNode ⟨kind, args, none, none⟩ (.special form) = .ok ())
    (h : List.Forall₂ (fun a x => (lower aliases .value a).result = .ok x) args operands)
    (he : assemble ⟨kind, args, none, none⟩ (.special form) operands none = .ok e) :
    (lower aliases .value (.apply kind args)).result = .ok e := by
  have hhandler : Registry.server.handlerFor ⟨kind, args, none, none⟩ = .ok (.special form) :=
    handlerFor_eq_ok.2 ⟨hget, by simp⟩
  refine result_lower_op.2 ⟨fun _ => rfl, _, operands, none, e, hhandler, hnode,
    result_lowerOperands_values hrole h 0, rfl, he, ?_⟩
  rw [hpredicate]
  rfl

/-- Unless it is the last one, a whole number has the next one after it. -/
theorem toInt_of_shiftedLiteral? {start : Scalar} {n : Int64}
    (h : shiftedLiteral? start = some n) :
    ∃ m : Int64, start = .literal (.int m) none ∧ n.toInt = m.toInt + 1 := by
  unfold shiftedLiteral? at h
  split at h
  · next m =>
    split at h
    · cases h
    · next hm =>
      cases h
      refine ⟨m, rfl, ?_⟩
      have hne : m.toInt ≠ Int64.maxValue.toInt := fun heq => hm (Int64.toInt_inj.1 heq)
      have hlt := m.toInt_lt
      have hge := m.le_toInt
      rw [Int64.toInt_maxValue] at hne
      rw [Int64.toInt_add, Int64.toInt_one]
      exact Int.bmod_eq_of_le (by omega) (by omega)
  · cases h

end Lower

namespace Semantics

variable {Row V : Type} {M : Semantics Row V} {scope : Scope} {row : Row}
  {text : List Char → V} {number : Int → V}

/-- Whole numbers without a type are lowered, the last one included. -/
theorem ExactNumbers.yields_int (h : M.ExactNumbers number) (n : Int64) :
    M.Yields scope row (.ofValue (.int n)) (number n.toInt) :=
  yields_iff.2 ⟨.int n, rfl, h.literal n⟩

/-- A position counted from one is one more than the start, whether the literal is counted on or one
is added to the value of the start. -/
theorem ExactNumbers.value_position (h : M.ExactNumbers number) {start : Scalar} {x : Expr}
    {k : Int} (hx : (Lower.lower scope.aliases .value start).result = .ok x)
    (hk : M.value row x.readBack = some (number k)) :
    M.value row (Lower.position start x).readBack = some (number (k + 1)) := by
  have hone : M.literal (.int 1) = some (number 1) := h.literal 1
  have hplus := h.plus k 1
  rw [← hk, ← hone] at hplus
  unfold Lower.position
  split
  · next n hn =>
    obtain ⟨m, rfl, hm⟩ := Lower.toInt_of_shiftedLiteral? hn
    cases hx
    -- the lowered start is the literal, so that adding one to it is counting it on
    have hcounted := h.plus m.toInt 1
    rw [← h.literal m, ← hone, ← hm, ← h.literal n] at hcounted
    exact hcounted.symm.trans hplus
  · show M.operator .plus (M.value row x.nested.readBack) (M.literal (.int 1)) = _
    rw [value_nested_readBack]
    exact hplus

/-- A search has one less than what the server answers for the needle, the text and what may come
after them. -/
theorem ExactNumbers.yields_find (h : M.ExactNumbers number) {e needle : Scalar}
    {rest : List Scalar} {u v : V} {vs : List V} {p : Int} (hcount : rest.length ≤ 1)
    (he : M.Yields scope row e u) (hneedle : M.Yields scope row needle v)
    (hrest : List.Forall₂ (M.Yields scope row) rest vs)
    (hp : M.function "charindex" (some v :: some u :: vs.map some) = some (number p)) :
    M.Yields scope row (.apply .find (e :: needle :: rest)) (number (p - 1)) := by
  obtain ⟨x, hx, hu⟩ := yields_iff.1 he
  obtain ⟨y, hy, hv⟩ := yields_iff.1 hneedle
  obtain ⟨zs, hzs, hvs⟩ := forall₂_of_yields hrest
  have hnode : Lower.checkNode ⟨.find, e :: needle :: rest, none, none⟩ (.special .find) =
      .ok () := by
    match rest, hcount with
    | [], _ => rfl
    | [_], _ => rfl
  refine yields_iff.2 ⟨_, Lower.result_lower_special rfl rfl (fun _ => rfl) hnode
    (.cons hx (.cons hy hzs)) rfl, ?_⟩
  have hcall : M.value row (Expr.function "charindex" (y :: x :: zs)).readBack =
      some (number p) := by
    rw [← hp, ← hvs, ← hu, ← hv]
    show M.function "charindex" (M.values row (Expr.readBackList (y :: x :: zs))) = _
    rw [values_eq_map, Expr.readBackList_eq_map, List.map_map]
    rfl
  have hone : M.literal (.int 1) = some (number 1) := h.literal 1
  have hminus := h.minus p 1
  rw [← hcall, ← hone] at hminus
  exact hminus

/-- A search with a start. -/
theorem ExactNumbers.yields_findFrom (h : M.ExactNumbers number)
    (hsearch : M.SearchesOnward text number) {e needle start : Scalar}
    {haystack wanted : List Char} {p : Int} (he : M.Yields scope row e (text haystack))
    (hneedle : M.Yields scope row needle (text wanted))
    (hstart : M.Yields scope row start (number p)) :
    ∃ i, M.Yields scope row (e.findFrom needle start) (number i) ∧
      Answers {j | max p 1 - 1 ≤ j ∧ OccursAt wanted haystack j} (-1) i := by
  obtain ⟨q, hq, hanswers⟩ := hsearch wanted haystack p
  refine ⟨q - 1, h.yields_find (by simp) he hneedle (.cons hstart .nil) hq, ?_⟩
  simpa using hanswers.pred

/-- A cut from a start that is not negative. -/
theorem ExactNumbers.yields_substring (h : M.ExactNumbers number)
    (hcut : M.CutsFromOne text number) {e start length : Scalar} {s : List Char} {k l : Int}
    (he : M.Yields scope row e (text s)) (hstart : M.Yields scope row start (number k))
    (hlength : M.Yields scope row length (number l)) (hk : 0 ≤ k) (hl : 0 ≤ l) :
    M.Yields scope row (e.substringOfLength start length)
      (text ((s.drop k.toNat).take l.toNat)) := by
  obtain ⟨x, hx, hs⟩ := yields_iff.1 he
  obtain ⟨y, hy, hky⟩ := yields_iff.1 hstart
  obtain ⟨z, hz, hlz⟩ := yields_iff.1 hlength
  refine yields_iff.2 ⟨_, Lower.result_lower_special rfl rfl (fun _ => rfl) rfl
    (.cons hx (.cons hy (.cons hz .nil))) rfl, ?_⟩
  have hposition := h.value_position hy hky
  have hcut := hcut s (k + 1) l (by omega) hl
  rw [← hs, ← hposition, ← hlz, Int.add_sub_cancel] at hcut
  exact hcut

end Semantics

/-! ## A server of texts and numbers -/

namespace Semantics

/-- The first position of a text in another one, counted from one, that is not before `start`; zero
where there is none. -/
def charIndex (needle haystack : List Char) (start : Int) : Int :=
  match (List.range (haystack.length + 1)).find? fun (i : Nat) =>
      decide (start ≤ i + 1 ∧ OccursAt needle haystack i) with
  | some i => i + 1
  | none => 0

/-- The values are texts and whole numbers, which literals, sums and differences and the two
functions of texts have. -/
def ofTexts : Semantics Unit (List Char ⊕ Int) where
  column _ _ _ := none
  literal
    | .int n => some (.inr n.toInt)
    | .string s => some (.inl s.toList)
    | _ => none
  param _ := none
  operator
    | .plus, some (.inr a), some (.inr b) => some (.inr (a + b))
    | .minus, some (.inr a), some (.inr b) => some (.inr (a - b))
    | _, _, _ => none
  compare _ _ _ := .unknown
  negative _ := none
  function
    | "charindex", [some (.inl needle), some (.inl haystack)] =>
      some (.inr (charIndex needle haystack 1))
    | "charindex", [some (.inl needle), some (.inl haystack), some (.inr start)] =>
      some (.inr (charIndex needle haystack start))
    | "substring", [some (.inl s), some (.inr p), some (.inr l)] =>
      -- a position before the first character takes its distance to it off the length
      some (.inl ((s.drop (p - 1).toNat).take (l + min (p - 1) 0).toNat))
    | _, _ => none
  cast _ v := v
  keyword _ := none
  aggregate _ _ := none

theorem answers_charIndex (needle haystack : List Char) (start : Int) :
    Answers {p | max start 1 ≤ p ∧ OccursAt needle haystack (p - 1)} 0
      (charIndex needle haystack start) := by
  -- every occurrence is one of the positions that are tried
  have htried : ∀ p, OccursAt needle haystack (p - 1) →
      (p - 1).toNat < haystack.length + 1 ∧ ((p - 1).toNat : Int) = p - 1 := by
    intro p hp
    obtain ⟨hnonneg, hle, -⟩ := OccursAt.iff_isPrefix.1 hp
    omega
  unfold charIndex
  split
  · next i hi =>
    obtain ⟨hfound, -, hbefore⟩ := List.find?_range_eq_some.1 hi
    obtain ⟨hstart, hoccurs⟩ := of_decide_eq_true hfound
    refine .inl ⟨⟨by omega, by simpa using hoccurs⟩, ?_⟩
    rintro p ⟨hp, hoccurs⟩
    obtain ⟨-, hcast⟩ := htried p hoccurs
    by_contra hlt
    have hrefused := hbefore (p - 1).toNat (by omega)
    rw [Bool.not_eq_true', decide_eq_false_iff_not, hcast] at hrefused
    exact hrefused ⟨by omega, hoccurs⟩
  · next hnone =>
    refine .inr ⟨?_, rfl⟩
    rw [Set.eq_empty_iff_forall_notMem]
    rintro p ⟨hp, hoccurs⟩
    obtain ⟨hrange, hcast⟩ := htried p hoccurs
    have hrefused := List.find?_range_eq_none.1 hnone _ hrange
    rw [Bool.not_eq_true', decide_eq_false_iff_not, hcast] at hrefused
    exact hrefused ⟨by omega, hoccurs⟩

theorem exactNumbers_ofTexts : ofTexts.ExactNumbers .inr where
  literal _ := rfl
  plus _ _ := rfl
  minus _ _ := rfl

theorem searchesFromOne_ofTexts : ofTexts.SearchesFromOne .inl .inr := by
  intro needle haystack
  refine ⟨charIndex needle haystack 1, rfl, ?_⟩
  have hpositions : {p | OccursAt needle haystack (p - 1)} =
      {p | max 1 1 ≤ p ∧ OccursAt needle haystack (p - 1)} := by
    ext p
    simp only [Set.mem_ofPred_eq, iff_and_self]
    intro hoccurs
    have := hoccurs.nonneg
    omega
  rw [hpositions]
  exact answers_charIndex needle haystack 1

theorem searchesOnward_ofTexts : ofTexts.SearchesOnward .inl .inr :=
  fun needle haystack start => ⟨_, rfl, answers_charIndex needle haystack start⟩

theorem cutsFromOne_ofTexts : ofTexts.CutsFromOne .inl .inr := by
  intro s p l hp _
  have hlength : l + min (p - 1) 0 = l := by omega
  show some (Sum.inl ((s.drop (p - 1).toNat).take (l + min (p - 1) 0).toNat)) = _
  rw [hlength]

end Semantics

/-! ## Positions count from zero -/

section

variable {Row V : Type} (M : Semantics Row V) (text : List Char → V) (number : Int → V)

/-- A search yields the position of the first occurrence counted from zero, or -1. A cut with a
start and a length that are not negative yields at most so many characters from the start on,
counted from zero; the start can be any expression with a number as its value, and every whole
number without a type is one. So a cut that starts where a search has found a text, and is as long
as the text, yields the text. -/
theorem positions_count_from_zero (hnumbers : M.ExactNumbers number)
    (hsearch : M.SearchesFromOne text number) (hcut : M.CutsFromOne text number)
    (scope : Scope) (row : Row) :
    (∀ (e needle : Scalar) (haystack wanted : List Char),
      M.Yields scope row e (text haystack) → M.Yields scope row needle (text wanted) →
        ∃ i, M.Yields scope row (e.find needle) (number i) ∧
          Answers {i | OccursAt wanted haystack i} (-1) i) ∧
    (∀ (e start length : Scalar) (s : List Char) (k l : Int), 0 ≤ k → 0 ≤ l →
      M.Yields scope row e (text s) → M.Yields scope row start (number k) →
      M.Yields scope row length (number l) →
        M.Yields scope row (e.substringOfLength start length)
          (text ((s.drop k.toNat).take l.toNat))) ∧
    (∀ n : Int64, M.Yields scope row (.ofValue (.int n)) (number n.toInt)) ∧
    (∀ (e needle length : Scalar) (haystack wanted : List Char), wanted <:+: haystack →
      M.Yields scope row e (text haystack) → M.Yields scope row needle (text wanted) →
      M.Yields scope row length (number wanted.length) →
        M.Yields scope row (e.substringOfLength (e.find needle) length) (text wanted)) := by
  have hfind : ∀ (e needle : Scalar) (haystack wanted : List Char),
      M.Yields scope row e (text haystack) → M.Yields scope row needle (text wanted) →
        ∃ i, M.Yields scope row (e.find needle) (number i) ∧
          Answers {i | OccursAt wanted haystack i} (-1) i := by
    intro e needle haystack wanted he hneedle
    obtain ⟨p, hp, hanswers⟩ := hsearch wanted haystack
    refine ⟨p - 1, hnumbers.yields_find (by simp) he hneedle .nil hp, ?_⟩
    simpa using hanswers.pred
  refine ⟨hfind, ?_, hnumbers.yields_int, ?_⟩
  · intro e start length s k l hk hl he hstart hlength
    exact hnumbers.yields_substring hcut he hstart hlength hk hl
  · intro e needle length haystack wanted hinfix he hneedle hlength
    obtain ⟨i, hi, hanswers⟩ := hfind e needle haystack wanted he hneedle
    obtain ⟨j, hj⟩ := OccursAt.exists_of_isInfix hinfix
    have hoccurs : OccursAt wanted haystack i := (hanswers.isLeast_of_mem hj).1
    have hyields := hnumbers.yields_substring hcut he hi hlength hoccurs.nonneg (by omega)
    rwa [Int.toNat_natCast, hoccurs.take_drop] at hyields

/-- A search in the middle of a text, a cut from a start to which one cannot be added in 64 bits,
and the search as the start of a cut. -/
theorem positions_count_from_zero_nested_search :
    let M := Semantics.ofTexts
    let e : Scalar := .ofValue (.string "hello world")
    let needle : Scalar := .ofValue (.string "wor")
    let three : Scalar := .ofValue (.int 3)
    let last : Scalar := .ofValue (.int Int64.maxValue)
    M.ExactNumbers .inr ∧ M.SearchesFromOne .inl .inr ∧ M.CutsFromOne .inl .inr ∧
      M.Yields (.new .empty) () (e.find needle) (.inr 6) ∧
      M.Yields (.new .empty) () (e.substringOfLength last three) (.inl []) ∧
      M.Yields (.new .empty) () (e.substringOfLength (e.find needle) three)
        (.inl "wor".toList) := by
  intro M e needle three last
  have hnumbers := Semantics.exactNumbers_ofTexts
  have hsearch := Semantics.searchesFromOne_ofTexts
  have hcut := Semantics.cutsFromOne_ofTexts
  obtain ⟨-, hcuts, hint, hnested⟩ :=
    positions_count_from_zero M .inl .inr hnumbers hsearch hcut (.new .empty) ()
  have he : M.Yields (.new .empty) () e (.inl "hello world".toList) :=
    Semantics.yields_iff.2 ⟨_, rfl, rfl⟩
  have hneedle : M.Yields (.new .empty) () needle (.inl "wor".toList) :=
    Semantics.yields_iff.2 ⟨_, rfl, rfl⟩
  refine ⟨hnumbers, hsearch, hcut, Semantics.yields_iff.2 ⟨_, rfl, by decide +kernel⟩, ?_, ?_⟩
  · exact hcuts e last three _ _ _ (by decide) (by decide) he (hint _) (hint 3)
  · exact hnested e needle three _ _ (by decide) he hneedle (hint 3)

/-- The start of a search is the position, counted from one, that the server starts from. A search
yields the first position, counted from zero, that is not before it, or -1. It is the first one not
before a number counted from zero where that is zero, or where the text does not stand right before
it. Once a text is found, searching from two after its position goes on behind it, and searching
from one after its position finds it again. -/
theorem search_starts_from_one (hnumbers : M.ExactNumbers number)
    (hsearch : M.SearchesOnward text number) (scope : Scope) (row : Row)
    (e needle start : Scalar) (haystack wanted : List Char) (p : Int)
    (he : M.Yields scope row e (text haystack))
    (hneedle : M.Yields scope row needle (text wanted))
    (hstart : M.Yields scope row start (number p)) :
    ∃ i, M.Yields scope row (e.findFrom needle start) (number i) ∧
      Answers {j | max p 1 - 1 ≤ j ∧ OccursAt wanted haystack j} (-1) i ∧
      (0 ≤ p → p = 0 ∨ ¬ OccursAt wanted haystack (p - 1) →
        Answers {j | p ≤ j ∧ OccursAt wanted haystack j} (-1) i) ∧
      (OccursAt wanted haystack i → ∀ next : Scalar,
        (M.Yields scope row next (number (i + 2)) →
          ∃ j, M.Yields scope row (e.findFrom needle next) (number j) ∧ j ≠ i ∧
            Answers {j | i + 1 ≤ j ∧ OccursAt wanted haystack j} (-1) j) ∧
        (M.Yields scope row next (number (i + 1)) →
          M.Yields scope row (e.findFrom needle next) (number i))) := by
  obtain ⟨i, hi, hanswers⟩ := hnumbers.yields_findFrom hsearch he hneedle hstart
  refine ⟨i, hi, hanswers, ?_, ?_⟩
  · intro hp hbefore
    rwa [OccursAt.setOf_from_pred hp hbefore] at hanswers
  · intro hoccurs next
    have hnonneg := hoccurs.nonneg
    constructor
    · intro hnext
      obtain ⟨j, hj, hbehind⟩ := hnumbers.yields_findFrom hsearch he hneedle hnext
      have hstart : max (i + 2) 1 - 1 = i + 1 := by omega
      rw [hstart] at hbehind
      refine ⟨j, hj, ?_, hbehind⟩
      rintro rfl
      rcases hbehind with ⟨⟨hle, -⟩, -⟩ | ⟨-, habsent⟩
      · omega
      · omega
    · intro hnext
      obtain ⟨j, hj, hagain⟩ := hnumbers.yields_findFrom hsearch he hneedle hnext
      have hstart : max (i + 1) 1 - 1 = i := by omega
      rw [hstart] at hagain
      have hleast := hagain.isLeast_of_mem ⟨le_refl i, hoccurs⟩
      obtain rfl : j = i := le_antisymm (hleast.2 ⟨le_refl i, hoccurs⟩) hleast.1.1
      exact hj

/-- Two occurrences that overlap, of which the second is found from two after the first. -/
theorem search_starts_from_one_overlapping :
    let M := Semantics.ofTexts
    let e : Scalar := .ofValue (.string "banana")
    let needle : Scalar := .ofValue (.string "ana")
    let two : Scalar := .ofValue (.int 2)
    let three : Scalar := .ofValue (.int 3)
    M.ExactNumbers .inr ∧ M.SearchesOnward .inl .inr ∧
      M.Yields (.new .empty) () (e.findFrom needle two) (.inr 1) ∧
      ∃ j, M.Yields (.new .empty) () (e.findFrom needle three) (.inr j) ∧
        Answers {j | 2 ≤ j ∧ OccursAt "ana".toList "banana".toList j} (-1) j := by
  intro M e needle two three
  have hnumbers := Semantics.exactNumbers_ofTexts
  have hsearch := Semantics.searchesOnward_ofTexts
  have he : M.Yields (.new .empty) () e (.inl "banana".toList) :=
    Semantics.yields_iff.2 ⟨_, rfl, rfl⟩
  have hneedle : M.Yields (.new .empty) () needle (.inl "ana".toList) :=
    Semantics.yields_iff.2 ⟨_, rfl, rfl⟩
  obtain ⟨j, hj, hanswers, -, -⟩ := search_starts_from_one M .inl .inr hnumbers hsearch
    (.new .empty) () e needle three _ _ 3 he hneedle (hnumbers.yields_int 3)
  exact ⟨hnumbers, hsearch, Semantics.yields_iff.2 ⟨_, rfl, by decide +kernel⟩, j, hj, hanswers⟩

/-- In `aa` the text `a` is found at zero, and found there again by a search from one. -/
theorem search_from_next_position_repeats :
    let M := Semantics.ofTexts
    let e : Scalar := .ofValue (.string "aa")
    let needle : Scalar := .ofValue (.string "a")
    let one : Scalar := .ofValue (.int 1)
    M.ExactNumbers .inr ∧ M.SearchesOnward .inl .inr ∧
      M.Yields (.new .empty) () e (.inl ['a', 'a']) ∧
      M.Yields (.new .empty) () needle (.inl ['a']) ∧
      M.Yields (.new .empty) () one (.inr 1) ∧
      M.Yields (.new .empty) () (e.find needle) (.inr 0) ∧
      M.Yields (.new .empty) () (e.findFrom needle one) (.inr 0) ∧
      ∀ i, M.Yields (.new .empty) () (e.findFrom needle one) (.inr i) →
        ¬ Answers {j | 1 ≤ j ∧ OccursAt ['a'] ['a', 'a'] j} (-1) i := by
  intro M e needle one
  have hagain : M.Yields (.new .empty) () (e.findFrom needle one) (.inr 0) :=
    Semantics.yields_iff.2 ⟨_, rfl, by decide +kernel⟩
  refine ⟨Semantics.exactNumbers_ofTexts, Semantics.searchesOnward_ofTexts,
    Semantics.yields_iff.2 ⟨_, rfl, rfl⟩, Semantics.yields_iff.2 ⟨_, rfl, rfl⟩,
    Semantics.yields_iff.2 ⟨_, rfl, rfl⟩, Semantics.yields_iff.2 ⟨_, rfl, by decide +kernel⟩,
    hagain, ?_⟩
  intro i hi
  obtain rfl : 0 = i := Sum.inr.inj (hagain.unique hi)
  rintro (⟨⟨hle, -⟩, -⟩ | ⟨-, habsent⟩)
  · omega
  · omega

end

end TransactSql
