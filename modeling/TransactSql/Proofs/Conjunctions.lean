import Mathlib
import TransactSql.Proofs.Composition
import TransactSql.Proofs.Truth

/-!
# Clauses say that all their predicates hold

A clause of several predicates is written as their conjunction, in one of two ways: a clause that
grows has parentheses around disjunctions only, and in a join all operands have parentheses. In the
first way a predicate that is a conjunction itself is written without parentheses, so what is read
from the clause is not the tree that was written: all operands of `AND` form one chain, which is
associated to the left. Since conjunction is associative, this changes no truth.

`clauses_state_conjunctions` says that every clause of a compiled relation is read as a condition
that has, whatever its atoms are, the truth of the conjunction of its predicates.
-/

namespace TransactSql

open Sql (Expr Token BinaryOp Reader Select JoinClause conjoin readExpr)
open Sql.Reader

namespace Sql.Expr

/-! ## Chains of AND -/

/-- The operands that `AND` connects at the top of an expression, from left to right. -/
def conjuncts : Expr → List Expr
  | .binary x .and y => x.conjuncts ++ y.conjuncts
  | x => [x]

/-- A first operand and further ones with `AND` between them, associated to the left. -/
def chained (first : Expr) (rest : List Expr) : Expr :=
  rest.foldl (fun left right => .binary left .and right) first

/-- The expression as it is read when `AND` has no parentheses around it. -/
def regrouped (x : Expr) : Expr :=
  match x.conjuncts with
  | [] => x.readBack
  | first :: rest => chained first.readBack (rest.map readBack)

theorem conjuncts_ne_nil (x : Expr) : x.conjuncts ≠ [] := by
  induction x using conjuncts.induct with
  | case1 x y ihx _ =>
    rw [conjuncts]
    exact fun h => ihx (List.append_eq_nil_iff.1 h).1
  | case2 x hx =>
    rw [conjuncts]
    · exact List.cons_ne_nil _ _
    · exact hx

/-- An expression that `AND` does not connect is its only operand. -/
theorem conjuncts_of_ne {x : Expr} (h : ∀ y z, x ≠ .binary y .and z) : x.conjuncts = [x] := by
  rw [conjuncts]
  exact h

/-- The operands of a conjunction: those of the left side, then those of the right side. -/
theorem exists_conjuncts_and {x y first : Expr} {rest : List Expr}
    (h : (Expr.binary x .and y).conjuncts = first :: rest) :
    ∃ xs second ys, x.conjuncts = first :: xs ∧ y.conjuncts = second :: ys ∧
      rest = xs ++ second :: ys := by
  rw [conjuncts] at h
  obtain ⟨first', xs, hx⟩ := List.exists_cons_of_ne_nil x.conjuncts_ne_nil
  obtain ⟨second, ys, hy⟩ := List.exists_cons_of_ne_nil y.conjuncts_ne_nil
  rw [hx, hy, List.cons_append, List.cons.injEq] at h
  obtain ⟨rfl, rfl⟩ := h
  exact ⟨xs, second, ys, hx, hy, rfl⟩

/-- The words of a chain are those of its operands with `AND` between them. -/
theorem words_of_conjuncts {x first : Expr} {rest : List Expr} (h : x.conjuncts = first :: rest) :
    x.words = first.words ++ rest.flatMap fun y => .keyword .AND :: y.words := by
  induction x using conjuncts.induct generalizing first rest with
  | case1 x y ihx ihy =>
    obtain ⟨xs, second, ys, hx, hy, rfl⟩ := exists_conjuncts_and h
    rw [words_binary, ihx hx, ihy hy, List.flatMap_append, List.flatMap_cons]
    simp [BinaryOp.token]
  | case2 x hx =>
    rw [conjuncts_of_ne hx, List.cons.injEq] at h
    obtain ⟨rfl, rfl⟩ := h
    simp

section

variable {α : Type} (and or : α → α → α) (not : α → α) (atom : Expr → α)

theorem foldCondition_chained (first : Expr) (rest : List Expr) :
    (chained first rest).foldCondition and or not atom =
      (rest.map (foldCondition and or not atom)).foldl and
        (first.foldCondition and or not atom) := by
  unfold chained
  induction rest generalizing first with
  | nil => rfl
  | cons y rest ih => rw [List.foldl_cons, ih, List.map_cons, List.foldl_cons, foldCondition]

/-- Where conjunction is associative, an expression is the conjunction of its operands. -/
theorem foldCondition_of_conjuncts [Std.Associative and] {x first : Expr} {rest : List Expr}
    (h : x.conjuncts = first :: rest) :
    x.foldCondition and or not atom =
      (rest.map (foldCondition and or not atom)).foldl and
        (first.foldCondition and or not atom) := by
  induction x using conjuncts.induct generalizing first rest with
  | case1 x y ihx ihy =>
    obtain ⟨xs, second, ys, hx, hy, rfl⟩ := exists_conjuncts_and h
    -- the right operand can be a chain of its own, which a chain from left to right does not show
    rw [foldCondition, ihx hx, ihy hy, List.map_append, List.map_cons, List.foldl_append,
      List.foldl_cons, List.foldl_assoc]
  | case2 x hx =>
    rw [conjuncts_of_ne hx, List.cons.injEq] at h
    obtain ⟨rfl, rfl⟩ := h
    rfl

/-- Reading a chain from left to right changes nothing where conjunction is associative. -/
theorem foldCondition_regrouped [Std.Associative and] (x : Expr) :
    x.regrouped.foldCondition and or not atom =
      x.foldCondition and or not fun a => atom a.readBack := by
  obtain ⟨first, rest, hx⟩ := List.exists_cons_of_ne_nil x.conjuncts_ne_nil
  have hrest : (rest.map readBack).map (foldCondition and or not atom) =
      rest.map (foldCondition and or not fun a => atom a.readBack) := by
    rw [List.map_map]
    exact List.map_congr_left fun y _ => foldCondition_readBack and or not atom y
  unfold regrouped
  rw [hx]
  show (chained first.readBack (rest.map readBack)).foldCondition and or not atom = _
  rw [foldCondition_chained, hrest, foldCondition_readBack,
    foldCondition_of_conjuncts and or not (fun a => atom a.readBack) hx]

end

/-! ## Reading chains -/

/-- An operand of a chain ends in front of the next `AND`, or where the chain ends. -/
theorem ends_chain (rest : List Expr) {ts : List Token} (hts : Ends 4 ts) :
    Ends 3 (rest.flatMap (fun y => .keyword .AND :: y.words) ++ ts) := by
  cases rest with
  | nil => exact hts.of_le (by omega)
  | cons y rest => exact ends_cons.2 (by decide)

/-- Operands with `AND` between them are read one after the other. -/
theorem chain_conjuncts {inner : Reader Expr} {rest : List Expr} {ts : List Token}
    (h : ∀ y ∈ rest, Reads (negation inner) 3 y.words y.readBack) (hts : Ends 4 ts) (left : Expr) :
    chain 4 (negation inner) left (rest.flatMap (fun y => .keyword .AND :: y.words) ++ ts) =
      some (chained left (rest.map readBack), ts) := by
  induction rest generalizing left with
  | nil => exact chain_of_ends hts
  | cons y rest ih =>
    have hy := h y (by simp) _ (ends_chain rest hts)
    have hrest := ih (fun z hz => h z (List.mem_cons_of_mem _ hz)) (.binary left .and y.readBack)
    rw [List.flatMap_cons, List.append_assoc, List.cons_append, chain.eq_def]
    simp only [Token.level, ↓reduceIte, Token.operator?, hy]
    rw [if_pos (by simp), hrest]
    rfl

/-- A chain whose operands are read as negations or tighter is read as a conjunction. -/
theorem reads_regrouped {x : Expr} (h : ∀ y ∈ x.conjuncts, ReadAs negation 3 y) {depth : Nat}
    (hd : x.words.length ≤ depth) :
    Reads (disjunction (expression depth)) 5 x.words x.regrouped := by
  obtain ⟨first, rest, hx⟩ := List.exists_cons_of_ne_nil x.conjuncts_ne_nil
  have hwords := words_of_conjuncts hx
  have hlength : ∀ y ∈ first :: rest, y.words.length ≤ depth := by
    intro y hy
    have hle : y.words.length ≤ x.words.length := by
      rw [hwords, List.length_append]
      rcases List.mem_cons.1 hy with rfl | hy
      · omega
      · obtain ⟨before, after, rfl⟩ := List.append_of_mem hy
        simp only [List.flatMap_append, List.flatMap_cons, List.length_append, List.length_cons]
        omega
    omega
  have hreads : ∀ y ∈ first :: rest, Reads (negation (expression depth)) 3 y.words y.readBack := by
    intro y hy
    rw [hx] at h
    exact h y hy depth (hlength y hy)
  refine Reads.disjunction ?_
  intro ts hts
  -- the first operand is read alone, and then the chain takes the others, one `AND` at a time
  have hfirst := hreads first (by simp) _ (ends_chain rest hts)
  have hchain := chain_conjuncts (fun y hy => hreads y (List.mem_cons_of_mem _ hy)) hts
    first.readBack
  have hregrouped : x.regrouped = chained first.readBack (rest.map readBack) := by
    unfold regrouped
    rw [hx]
  unfold conjunction leftAssociated
  rw [hwords, List.append_assoc, hfirst, hregrouped]
  exact hchain

end Sql.Expr

/-- What is read from the words of an expression is a condition if the expression is one, and has
the truth of the expression, where membership in an empty list counts as the comparison that it is
written as. -/
def ReadFaithfully (x : Expr) : Prop :=
  ∃ e, readExpr x.words = some e ∧ e.isCondition = x.isCondition ∧
    ∀ assignment, e.truth assignment = x.truth fun atom => assignment atom.readBack

namespace ReadFaithfully

variable {x : Expr}

theorem of_readAs (h : ReadAs disjunction 5 x) : ReadFaithfully x :=
  ⟨x.readBack, readExpr_of_reads (h _ (Nat.le_refl _)), x.isCondition_readBack,
    fun _ => x.truth_readBack⟩

theorem of_conjuncts (h : ∀ y ∈ x.conjuncts, ReadAs negation 3 y) : ReadFaithfully x := by
  refine ⟨x.regrouped, readExpr_of_reads (Expr.reads_regrouped h (Nat.le_refl _)), ?_, ?_⟩
  · have hregrouped := Expr.foldCondition_regrouped (· && ·) (· && ·) id Expr.isAtomic x
    simp only [Expr.isAtomic_readBack] at hregrouped
    exact hregrouped
  · intro assignment
    exact Expr.foldCondition_regrouped .and .or .not assignment x

end ReadFaithfully

/-! ## Growing clauses -/

theorem ReadAs.negation {x : Expr} (h : ReadAs Reader.comparison 3 x) :
    ReadAs Reader.negation 3 x :=
  fun depth hd => (h depth hd).negation

/-- A lowered condition beside others: as it stands there, each operand of its chain is read
alone. -/
theorem Lowered.conjuncts_conjunct {x : Expr} (h : Lowered .condition x) :
    ∀ y ∈ x.conjunct.conjuncts, ReadAs Reader.negation 3 y := by
  have hreads := h.readsInRole
  -- an expression that `AND` does not connect is read as a whole
  have hsingle : ∀ z : Expr, (∀ u v, z ≠ .binary u .and v) → ReadAs Reader.negation 3 z →
      ∀ y ∈ z.conjuncts, ReadAs Reader.negation 3 y := by
    intro z hz hread y hy
    rw [Expr.conjuncts_of_ne hz, List.mem_singleton] at hy
    rwa [hy]
  cases h with
  | @comparison op x y hop hx hy =>
    have hcompared := ReadAs.compared hop hx.readsInRole.1 hy.readsInRole.1
    cases op with
    | eq | ne | lt | gt | le | ge => exact hsingle _ (fun _ _ => nofun) hcompared.negation
    | _ => cases hop
  | @connective op x y hop hx hy =>
    cases op with
    | and =>
      -- the operands of an inner `AND` join the chain, and have parentheses where they need them
      have hnested : ∀ z : Expr, ∀ u v, z.nested ≠ .binary u .and v := by
        intro z u v
        unfold Expr.nested
        split
        · nofun
        · nofun
        · next hz _ => exact hz u .and v
      intro z hz
      rw [show (Expr.binary x.nested .and y.nested).conjunct.conjuncts
        = x.nested.conjuncts ++ y.nested.conjuncts from rfl] at hz
      rcases List.mem_append.1 hz with hz | hz
      · exact hsingle _ (hnested x) hx.readsInRole.1.negation z hz
      · exact hsingle _ (hnested y) hy.readsInRole.1.negation z hz
    -- `OR` binds looser than `AND`, so `conjunct` has put it in parentheses
    | or => exact hsingle (.paren _) (fun _ _ => nofun) hreads.2.paren.sum.comparison.negation
    | _ => cases hop
  | @negation x hx =>
    refine hsingle (.unary .not (.paren x)) (fun _ _ => nofun) ?_
    intro depth hd
    rw [Expr.words_not] at hd ⊢
    simp only [List.length_cons] at hd
    exact (hx.readsInRole.2.paren.sum.comparison depth (by omega)).negation.not
  | membership negated hx hvalues => exact hsingle _ (fun _ _ => nofun) hreads.1.negation
  | nullTest hx => exact hsingle _ (fun _ _ => nofun) hreads.1.negation

/-- A clause of conditions: what it says is read from it faithfully, and that is their
conjunction. -/
structure StatesAll (conditions : List Expr) (clause : Option Expr) : Prop where
  /-- There is a clause where there are conditions. -/
  absent : clause = none ↔ conditions = []
  /-- The tokens of the clause, without blanks, are read as a condition of comparisons, `IN` and
  `IS NULL` that is as true as all conditions together, whatever its atoms are. -/
  read : ∀ c ∈ clause, ∃ e, readExpr (c.tokens.filter fun t => !t.isBlank) = some e ∧
    e.isCondition ∧ ∀ assignment : Expr → Truth, e.truth assignment =
      Truth.all (conditions.map fun x => x.truth fun atom => assignment atom.readBack)

/-- A step that adds a condition to those that a clause has, with what holds of the clause then. -/
structure Conjoins (step : Option Expr → Expr → Option Expr) (P : Expr → Prop) : Prop where
  first : ∀ x, Lowered .condition x → step none x = some x ∧ P x
  next : ∀ e x, P e → Lowered .condition x → ∃ c, step (some e) x = some c ∧ P c ∧
    ∀ assignment, c.truth assignment = (e.truth assignment).and (x.truth assignment)
  read : ∀ x, P x → x.isCondition ∧ ReadFaithfully x

namespace Conjoins

variable {step : Option Expr → Expr → Option Expr} {P : Expr → Prop}

/-- Adding conditions to a clause that has some already. -/
theorem foldl_some (h : Conjoins step P) {xs : List Expr} (hxs : ∀ x ∈ xs, Lowered .condition x)
    {e : Expr} (he : P e) :
    ∃ c, xs.foldl step (some e) = some c ∧ P c ∧ ∀ assignment,
      c.truth assignment =
        (e.truth assignment).and (Truth.all (xs.map (Expr.truth assignment))) := by
  induction xs generalizing e with
  | nil => exact ⟨e, rfl, he, by simp⟩
  | cons x xs ih =>
    obtain ⟨d, hd, hPd, htruth⟩ := h.next e x he (hxs x (by simp))
    obtain ⟨c, hc, hPc, hall⟩ := ih (fun y hy => hxs y (List.mem_cons_of_mem _ hy)) hPd
    refine ⟨c, ?_, hPc, ?_⟩
    · rw [List.foldl_cons, hd, hc]
    · intro assignment
      rw [hall, htruth, List.map_cons, Truth.all_cons, Truth.and_assoc]

theorem statesAll (h : Conjoins step P) {xs : List Expr} (hxs : ∀ x ∈ xs, Lowered .condition x) :
    StatesAll xs (xs.foldl step none) := by
  cases xs with
  | nil => exact ⟨by simp, nofun⟩
  | cons x xs =>
    obtain ⟨hfirst, hx⟩ := h.first x (hxs x (by simp))
    obtain ⟨c, hc, hPc, hall⟩ := h.foldl_some (fun y hy => hxs y (List.mem_cons_of_mem _ hy)) hx
    obtain ⟨hcondition, e, hwords, he, hsame⟩ := h.read c hPc
    rw [List.foldl_cons, hfirst, hc]
    refine ⟨by simp, ?_⟩
    rintro c' ⟨⟩
    refine ⟨e, hwords, he.trans hcondition, ?_⟩
    intro assignment
    rw [hsame, hall, List.map_cons, Truth.all_cons]

end Conjoins

/-- A clause that grows: each operand of its chain is read alone. -/
theorem conjoins_conjoin : Conjoins (fun clause x => some (conjoin clause x)) fun x =>
    x.isCondition ∧ ReadFaithfully x ∧ ∀ y ∈ x.conjunct.conjuncts, ReadAs negation 3 y where
  first x hx :=
    ⟨rfl, hx.isCondition, .of_readAs hx.readsInRole.2, hx.conjuncts_conjunct⟩
  next := by
    rintro e x ⟨he, -, hchain⟩ hx
    have hconnected : ∀ y ∈ (Expr.binary e.conjunct .and x.conjunct).conjuncts,
        ReadAs negation 3 y := by
      rw [Expr.conjuncts, List.forall_mem_append]
      exact ⟨hchain, hx.conjuncts_conjunct⟩
    refine ⟨_, rfl, ⟨?_, .of_conjuncts hconnected, hconnected⟩, ?_⟩
    · simp [conjoin, he, hx.isCondition]
    · simp [conjoin]
  read x hx := ⟨hx.1, hx.2.1⟩

/-- The predicates of a join: every operand is read alone, since it has parentheses. -/
theorem conjoins_conjoinNested : Conjoins Statement.conjoinNested fun x =>
    x.isCondition ∧ ReadsInRole .condition x where
  first x hx := ⟨rfl, hx.isCondition, hx.readsInRole⟩
  next := by
    rintro e x ⟨he, hreads⟩ hx
    have hconnected : ReadAs disjunction 5 (.binary e.nested .and x.nested) :=
      .connected rfl hreads.1 hx.readsInRole.1
    refine ⟨_, rfl, ⟨?_, .of_disjunction hconnected rfl⟩, ?_⟩
    · simp [he, hx.isCondition]
    · simp
  read x hx := ⟨hx.1, .of_readAs hx.2.2⟩

/-! ## Compiled relations -/

/-- A clause says of rows that the predicates hold: each is normalized, lowered as a condition with
these tables registered, and stated. -/
def StatesPredicates (tables : List TableName) (predicates : List Scalar)
    (clause : Option Expr) : Prop :=
  ∃ conditions, List.Forall₂ (LoweredWith tables .condition)
    (predicates.map RuleSet.base.normalize) conditions ∧ StatesAll conditions clause

/-- Two clauses are both there or both absent, and are read as conditions of the same truth. -/
def ReadAlike (clause clause' : Option Expr) : Prop :=
  (clause = none ↔ clause' = none) ∧ ∀ x ∈ clause, ∀ y ∈ clause', ∃ e e',
    readExpr (x.tokens.filter fun t => !t.isBlank) = some e ∧
    readExpr (y.tokens.filter fun t => !t.isBlank) = some e' ∧
    ∀ assignment : Expr → Truth, e.truth assignment = e'.truth assignment

theorem LoweredWith.lowered {tables : List TableName} {role : Role} {es : List Scalar}
    {xs : List Expr} (h : List.Forall₂ (LoweredWith tables role) es xs) :
    ∀ x ∈ xs, Lowered role x := by
  intro x hx
  obtain ⟨e, -, aliases, -, hlower⟩ := exists_of_mem_forall₂ h hx
  exact Lower.lowered_of_lower hlower

theorem StatesAll.readAlike {conditions : List Expr} {clause clause' : Option Expr}
    (h : StatesAll conditions clause) (h' : StatesAll conditions clause') :
    ReadAlike clause clause' := by
  refine ⟨h.absent.trans h'.absent.symm, ?_⟩
  intro x hx y hy
  obtain ⟨e, he, -, htruth⟩ := h.read x hx
  obtain ⟨e', he', -, htruth'⟩ := h'.read y hy
  exact ⟨e, e', he, he', fun assignment => (htruth assignment).trans (htruth' assignment).symm⟩

theorem statesPredicates_of_combined {step : Option Expr → Expr → Option Expr} {P : Expr → Prop}
    (hstep : Conjoins step P) {tables : List TableName} {predicates : List Scalar}
    {clause : Option Expr}
    (h : Combined (fun xs => xs.foldl step none) tables
      (predicates.map RuleSet.base.normalize) clause) :
    StatesPredicates tables predicates clause := by
  obtain ⟨conditions, hconditions, rfl⟩ := h
  exact ⟨conditions, hconditions, hstep.statesAll (LoweredWith.lowered hconditions)⟩

/-- What the two ways of forming conjunctions make of the same predicates is read alike. -/
theorem readAlike_of_mapM {aliases : Aliases} {predicates : List Scalar} {conditions : List Expr}
    (h : (predicates.mapM (Lower.lower aliases .condition)).result = .ok conditions) :
    ReadAlike (Statement.conjoinAll conditions) (Statement.conjoinAllNested conditions) := by
  have hlowered := LoweredWith.lowered (Statement.forall₂_loweredWith h)
  exact (conjoins_conjoin.statesAll hlowered).readAlike (conjoins_conjoinNested.statesAll hlowered)

/-- In a compiled relation the conditions on rows, on groups and of every join state the predicates
of the relation: read with the precedence of the operators, a clause has the truth of the
conjunction of its predicates, whatever truth its atoms are given. And of the same predicates the
two ways of forming conjunctions make clauses that are read alike. -/
theorem clauses_state_conjunctions :
    (∀ (r : Relation) (params : Params) (c : Compiled),
      compile (.relation r) params = .ok c →
        StatesPredicates r.tableNames r.rowPredicates c.select.condition ∧
        StatesPredicates r.tableNames r.groupPredicates c.select.having ∧
        List.Forall₂ (fun scope j => StatesPredicates scope.tables scope.predicates j.condition)
          r.joinScopes c.select.joins) ∧
    (∀ (scope : Scope) (predicates : List Scalar) (combined : Option Expr),
      (scope.exec (InScope.conjunction predicates)).1 = .ok combined →
        (∀ s t : Select, s.condition = none →
          (scope.exec (InScope.restrictAll s predicates)).1 = .ok t →
            ReadAlike t.condition combined) ∧
        (∀ s t : Select, s.having = none →
          (scope.exec (InScope.restrictAllGroups s predicates)).1 = .ok t →
            ReadAlike t.having combined)) := by
  constructor
  · intro r params c h
    have hcomposed := composed_of_compile h
    have htables : (Query.normalize .base (.relation r)).tableNames = r.tableNames :=
      Relation.tableNames_mapExpressions _ r
    have hrows := hcomposed.condition
    have hgroups := hcomposed.having
    have hon := hcomposed.on
    rw [htables] at hrows hgroups
    rw [show (Query.normalize .base (.relation r)).rowPredicates = _ from
      Relation.rowPredicates_mapExpressions _ r] at hrows
    rw [show (Query.normalize .base (.relation r)).groupPredicates = _ from
      Relation.groupPredicates_mapExpressions _ r] at hgroups
    rw [show (Query.normalize .base (.relation r)).joinScopes = _ from
      Relation.joinScopes_mapExpressions _ r, List.forall₂_map_left_iff] at hon
    refine ⟨?_, ?_, ?_⟩
    · exact statesPredicates_of_combined conjoins_conjoin hrows
    · exact statesPredicates_of_combined conjoins_conjoin hgroups
    · exact hon.imp fun scope j hj => statesPredicates_of_combined conjoins_conjoinNested hj
  · intro scope predicates combined h
    rw [(InScope.conjunction_realizes _ predicates).exec_fst, Statement.conjunction_eq,
      Lowering.result_bind_eq_ok] at h
    obtain ⟨conditions, hconditions, h⟩ := h
    cases h
    have halike := readAlike_of_mapM hconditions
    constructor
    · intro s t hs ht
      rw [(InScope.restrictAll_realizes _ s predicates).exec_fst, Statement.restrictAll_eq hs,
        Lowering.result_bind_eq_ok] at ht
      obtain ⟨conditions', hconditions', ht⟩ := ht
      cases hconditions.symm.trans hconditions'
      cases ht
      exact halike
    · intro s t hs ht
      rw [(InScope.restrictAllGroups_realizes _ s predicates).exec_fst,
        Statement.restrictAllGroups_eq hs, Lowering.result_bind_eq_ok] at ht
      obtain ⟨conditions', hconditions', ht⟩ := ht
      cases hconditions.symm.trans hconditions'
      cases ht
      exact halike

/-- Predicates that are conjunctions, disjunctions and negations, in all three clauses, and the same
predicates combined in both ways. -/
theorem clauses_state_conjunctions_of_mixed :
    let a : Scalar := .column ⟨none, "t"⟩ "a" (some .int64)
    let b : Scalar := .column ⟨none, "u"⟩ "b" (some .boolean)
    let both : Scalar := .apply .and [.apply .isNull [a], b]
    let either : Scalar := .apply .or [.apply .isIn [a], both]
    let neither : Scalar := .apply .not [either]
    let predicates := [both, either, neither, both]
    let r : Relation := .aggregation
      (.join (.table ⟨⟨none, "t"⟩, [("a", .int64)]⟩) (.table ⟨⟨none, "u"⟩, [("b", .boolean)]⟩)
        .left predicates)
      { keys := [⟨"a", a⟩], predicates, having := predicates }
    ∃ c scope combined t u,
      compile (.relation r) .empty = .ok c ∧
      (StatesPredicates r.tableNames predicates c.select.condition ∧
        StatesPredicates r.tableNames predicates c.select.having ∧
        List.Forall₂ (fun scope j => StatesPredicates scope.tables scope.predicates j.condition)
          r.joinScopes c.select.joins) ∧
      (Scope.exec scope (InScope.conjunction predicates)).1 = .ok combined ∧
      (scope.exec (InScope.restrictAll {} predicates)).1 = .ok t ∧
      (scope.exec (InScope.restrictAllGroups {} predicates)).1 = .ok u ∧
      ReadAlike t.condition combined ∧ ReadAlike u.having combined := by
  intro a b both either neither predicates r
  have hc : ∃ c, compile (.relation r) .empty = .ok c := ⟨_, rfl⟩
  let scope : Scope := ⟨.empty, ⟨[⟨none, "t"⟩, ⟨none, "u"⟩], by decide⟩, .empty⟩
  have hcombined : ∃ combined,
      (scope.exec (InScope.conjunction predicates)).1 = .ok combined := ⟨_, rfl⟩
  have ht : ∃ t, (scope.exec (InScope.restrictAll {} predicates)).1 = .ok t := ⟨_, rfl⟩
  have hu : ∃ u, (scope.exec (InScope.restrictAllGroups {} predicates)).1 = .ok u := ⟨_, rfl⟩
  obtain ⟨c, hc⟩ := hc
  obtain ⟨combined, hcombined⟩ := hcombined
  obtain ⟨t, ht⟩ := ht
  obtain ⟨u, hu⟩ := hu
  obtain ⟨hstated, halike⟩ := clauses_state_conjunctions
  obtain ⟨hrows, hgroups⟩ := halike scope predicates combined hcombined
  exact ⟨c, scope, combined, t, u, hc, hstated r .empty c hc, hcombined, ht, hu,
    hrows {} t rfl ht, hgroups {} u rfl hu⟩

end TransactSql
