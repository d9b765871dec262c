import TransactSql.Proofs.Traverse

/-!
# Mapping follows listing

`Relation.expressions` lists the expressions of a relation and `Relation.mapExpressionsM` changes
them, and each of the two goes through the parts of every constructor on its own. They agree: a
function with a state meets the expressions in the order of the list, and what it gives for them is
the list of the mapped relation, which has the shape of the relation that was mapped.

There is no more to a relation than its shape and its list (`Matches.eq_of_expressions`), so this
says all about the mapped relation: `mapping_follows_listing`.
-/

namespace TransactSql

/-! ## Shape and list -/

/-- Lists are equal if their items are, item by item, whenever one part of them is. -/
theorem eq_of_forall₂_of_map_eq {α β γ : Type} {Q : α → β → Prop} {part : β → γ}
    (hitem : ∀ {a b c}, Q a b → Q a c → part b = part c → b = c) {l : List α} {bs cs : List β}
    (hbs : List.Forall₂ Q l bs) (hcs : List.Forall₂ Q l cs) (h : bs.map part = cs.map part) :
    bs = cs := by
  induction hbs generalizing cs with
  | nil =>
    cases hcs
    rfl
  | cons hb _ ih =>
    cases hcs with
    | cons hc hcs =>
      obtain ⟨hpart, hrest⟩ := List.cons.inj h
      rw [hitem hb hc hpart, ih hcs hrest]

section

variable {R : Scalar → Scalar → Prop}

theorem Named.Matches.eq_of_expr {n m k : Named} (hm : n.Matches R m) (hk : n.Matches R k)
    (h : m.expr = k.expr) : m = k := by
  cases m
  cases k
  cases hm.name.trans hk.name.symm
  cases h
  rfl

theorem SortKey.Matches.eq_of_expr {k l m : SortKey} (hl : k.Matches R l) (hm : k.Matches R m)
    (h : l.expr = m.expr) : l = m := by
  cases l
  cases m
  cases hl.descending.trans hm.descending.symm
  cases h
  rfl

theorem Selection.Matches.length_expressions {s t : Selection} (h : s.Matches R t) :
    t.expressions.length = s.expressions.length := by
  simp [Selection.expressions, h.projections.length_eq, h.predicates.length_eq,
    h.sortKeys.length_eq]

theorem Aggregation.Matches.length_expressions {a b : Aggregation} (h : a.Matches R b) :
    b.expressions.length = a.expressions.length := by
  simp [Aggregation.expressions, h.keys.length_eq, h.metrics.length_eq, h.predicates.length_eq,
    h.having.length_eq, h.sortKeys.length_eq]

theorem Selection.Matches.eq_of_expressions {s t u : Selection} (ht : s.Matches R t)
    (hu : s.Matches R u) (h : t.expressions = u.expressions) : t = u := by
  have hprojections :
      (t.projections.map (·.expr)).length = (u.projections.map (·.expr)).length := by
    simp [← ht.projections.length_eq, ← hu.projections.length_eq]
  have hkeys : (t.sortKeys.map (·.expr)).length = (u.sortKeys.map (·.expr)).length := by
    simp [← ht.sortKeys.length_eq, ← hu.sortKeys.length_eq]
  obtain ⟨h, hkeys⟩ := List.append_inj' h hkeys
  obtain ⟨hprojections, hpredicates⟩ := List.append_inj h hprojections
  cases t
  cases u
  congr 1
  · exact eq_of_forall₂_of_map_eq Named.Matches.eq_of_expr ht.projections hu.projections
      hprojections
  · exact eq_of_forall₂_of_map_eq SortKey.Matches.eq_of_expr ht.sortKeys hu.sortKeys hkeys
  · exact ht.limit.trans hu.limit.symm

theorem Aggregation.Matches.eq_of_expressions {a b c : Aggregation} (hb : a.Matches R b)
    (hc : a.Matches R c) (h : b.expressions = c.expressions) : b = c := by
  have hgroups : (b.keys.map (·.expr)).length = (c.keys.map (·.expr)).length := by
    simp [← hb.keys.length_eq, ← hc.keys.length_eq]
  have hmetrics : (b.metrics.map (·.expr)).length = (c.metrics.map (·.expr)).length := by
    simp [← hb.metrics.length_eq, ← hc.metrics.length_eq]
  have hhaving : b.having.length = c.having.length := by
    rw [← hb.having.length_eq, ← hc.having.length_eq]
  have hkeys : (b.sortKeys.map (·.expr)).length = (c.sortKeys.map (·.expr)).length := by
    simp [← hb.sortKeys.length_eq, ← hc.sortKeys.length_eq]
  -- the list is taken apart from its end
  obtain ⟨h, hkeys⟩ := List.append_inj' h hkeys
  obtain ⟨h, hhaving⟩ := List.append_inj' h hhaving
  have hpredicates : b.predicates.length = c.predicates.length := by
    rw [← hb.predicates.length_eq, ← hc.predicates.length_eq]
  obtain ⟨h, hpredicates⟩ := List.append_inj' h hpredicates
  obtain ⟨hgroups, hmetrics⟩ := List.append_inj h hgroups
  cases b
  cases c
  congr 1
  · exact eq_of_forall₂_of_map_eq Named.Matches.eq_of_expr hb.keys hc.keys hgroups
  · exact eq_of_forall₂_of_map_eq Named.Matches.eq_of_expr hb.metrics hc.metrics hmetrics
  · exact eq_of_forall₂_of_map_eq SortKey.Matches.eq_of_expr hb.sortKeys hc.sortKeys hkeys
  · exact hb.limit.trans hc.limit.symm

namespace Relation

theorem Matches.length_expressions {r r' : Relation} (h : Matches R r r') :
    r'.expressions.length = r.expressions.length := by
  induction h with
  | table t => rfl
  | selection _ hparts ih | aggregation _ hparts ih =>
    simp [expressions, ih, hparts.length_expressions]
  | join kind _ _ hpredicates ihleft ihright =>
    simp [expressions, ihleft, ihright, hpredicates.length_eq]

/-- Relations that match the same relation, place by place, are equal if they list the same
expressions. -/
theorem Matches.eq_of_expressions {r r₁ r₂ : Relation} (h₁ : Matches R r r₁)
    (h₂ : Matches R r r₂) (h : r₁.expressions = r₂.expressions) : r₁ = r₂ := by
  induction h₁ generalizing r₂ with
  | table t =>
    cases h₂
    rfl
  | selection hsource hparts ih =>
    cases h₂ with
    | selection hsource' hparts' =>
      have hlength := hsource.length_expressions.trans hsource'.length_expressions.symm
      obtain ⟨hleft, hright⟩ := List.append_inj h hlength
      rw [ih hsource' hleft, hparts.eq_of_expressions hparts' hright]
  | aggregation hsource hparts ih =>
    cases h₂ with
    | aggregation hsource' hparts' =>
      have hlength := hsource.length_expressions.trans hsource'.length_expressions.symm
      obtain ⟨hleft, hright⟩ := List.append_inj h hlength
      rw [ih hsource' hleft, hparts.eq_of_expressions hparts' hright]
  | join kind hleft hright hpredicates ihleft ihright =>
    cases h₂ with
    | join _ hleft' hright' hpredicates' =>
      have hlength := hpredicates.length_eq.symm.trans hpredicates'.length_eq
      obtain ⟨h, hpredicates⟩ := List.append_inj' h hlength
      have hlength := hleft.length_expressions.trans hleft'.length_expressions.symm
      obtain ⟨hl, hr⟩ := List.append_inj h hlength
      rw [ihleft hleft' hl, ihright hright' hr, hpredicates]

end Relation

end

/-! ## The order of effects -/

section

variable {m : Type → Type} [Monad m] [LawfulMonad m] (f : Scalar → m Scalar)

/-- Changing the expression in each item of a list changes the expressions of the list. -/
theorem map_mapM {α : Type} {expr : α → Scalar} {g : α → m α}
    (h : ∀ a, expr <$> g a = f (expr a)) (l : List α) :
    List.map expr <$> l.mapM g = (l.map expr).mapM f := by
  induction l with
  | nil => simp
  | cons a l ih => simp [List.mapM_cons, ← ih, ← h]

theorem map_mapM_named (l : List Named) :
    List.map Named.expr <$> l.mapM (Named.mapM f) = (l.map Named.expr).mapM f :=
  map_mapM f (by simp [Named.mapM]) l

theorem map_mapM_sortKey (l : List SortKey) :
    List.map SortKey.expr <$> l.mapM (SortKey.mapM f) = (l.map SortKey.expr).mapM f :=
  map_mapM f (by simp [SortKey.mapM]) l

theorem Selection.expressions_mapM (s : Selection) :
    expressions <$> s.mapM f = s.expressions.mapM f := by
  simp [mapM, expressions, List.mapM_append, -List.mapM_map, ← map_mapM_named, ← map_mapM_sortKey]

theorem Aggregation.expressions_mapM (a : Aggregation) :
    expressions <$> a.mapM f = a.expressions.mapM f := by
  simp [mapM, expressions, List.mapM_append, -List.mapM_map, ← map_mapM_named, ← map_mapM_sortKey]

/-- The expressions of the mapped relation are those of the list, with the effects in its order. -/
theorem Relation.expressions_mapExpressionsM (r : Relation) :
    expressions <$> r.mapExpressionsM f = r.expressions.mapM f := by
  induction r with
  | table t => simp [mapExpressionsM, expressions]
  | selection source parts ih =>
    simp [mapExpressionsM, expressions, List.mapM_append, ← ih, ← Selection.expressions_mapM]
  | aggregation source parts ih =>
    simp [mapExpressionsM, expressions, List.mapM_append, ← ih, ← Aggregation.expressions_mapM]
  | join left right kind predicates ihleft ihright =>
    simp [mapExpressionsM, expressions, List.mapM_append, ← ihleft, ← ihright]

end

/-! ## What mapping keeps -/

section

variable {σ : Type} (f : Scalar → StateM σ Scalar)

/-- The same relation but for the expressions in it. -/
def Relation.SameShape (r r' : Relation) : Prop :=
  Relation.Matches (fun _ _ => True) r r'

theorem forall₂_run_mapM {α : Type} {Q : α → α → Prop} {g : α → StateM σ α}
    (h : ∀ a s, Q a ((g a).run s).1) (l : List α) (s : σ) :
    List.Forall₂ Q l ((l.mapM g).run s).1 := by
  induction l generalizing s with
  | nil => exact .nil
  | cons a l ih =>
    rw [List.mapM_cons]
    exact .cons (h a s) (ih _)

theorem forall₂_run_mapM_named (l : List Named) (s : σ) :
    List.Forall₂ (Named.Matches fun _ _ => True) l ((l.mapM (Named.mapM f)).run s).1 :=
  forall₂_run_mapM (fun _ _ => ⟨rfl, trivial⟩) l s

theorem forall₂_run_mapM_sortKey (l : List SortKey) (s : σ) :
    List.Forall₂ (SortKey.Matches fun _ _ => True) l ((l.mapM (SortKey.mapM f)).run s).1 :=
  forall₂_run_mapM (fun _ _ => ⟨rfl, trivial⟩) l s

theorem Selection.matches_run_mapM (t : Selection) (s : σ) :
    t.Matches (fun _ _ => True) ((t.mapM f).run s).1 where
  projections := forall₂_run_mapM_named f _ _
  predicates := forall₂_run_mapM (fun _ _ => trivial) _ _
  sortKeys := forall₂_run_mapM_sortKey f _ _
  limit := rfl

theorem Aggregation.matches_run_mapM (a : Aggregation) (s : σ) :
    a.Matches (fun _ _ => True) ((a.mapM f).run s).1 where
  keys := forall₂_run_mapM_named f _ _
  metrics := forall₂_run_mapM_named f _ _
  predicates := forall₂_run_mapM (fun _ _ => trivial) _ _
  having := forall₂_run_mapM (fun _ _ => trivial) _ _
  sortKeys := forall₂_run_mapM_sortKey f _ _
  limit := rfl

/-- A function with a state changes nothing but expressions. -/
theorem Relation.sameShape_run_mapExpressionsM (r : Relation) (s : σ) :
    r.SameShape ((r.mapExpressionsM f).run s).1 := by
  induction r generalizing s with
  | table t => exact .table t
  | selection source parts ih => exact .selection (ih _) (parts.matches_run_mapM f _)
  | aggregation source parts ih => exact .aggregation (ih _) (parts.matches_run_mapM f _)
  | join left right kind predicates ihleft ihright =>
    exact .join kind (ihleft _) (ihright _) (forall₂_run_mapM (fun _ _ => trivial) _ _)

end

/-! ## Mapping and listing -/

namespace Relation

theorem mapExpressions_id (r : Relation) : r.mapExpressions id = r := by
  induction r with
  | table t => rfl
  | selection source parts ih => simp [mapExpressions_selection, ih]
  | aggregation source parts ih => simp [mapExpressions_aggregation, ih]
  | join left right kind predicates ihleft ihright =>
    simp [mapExpressions_join, ihleft, ihright]

/-- A function with a state goes through the expressions of a relation as it goes through their
list, from left to right: the mapped relation is the one relation that has the shape of the old one
and lists what the function gives, and the state is left as the list leaves it. A function without
a state maps the list item by item; the identity maps a relation to itself, and two functions one
after the other map it as their composition does. -/
theorem mapping_follows_listing (r : Relation) :
    (∀ (σ : Type) (f : Scalar → StateM σ Scalar) (s s' : σ) (r' : Relation),
      (r.mapExpressionsM f).run s = (r', s') ↔
        r.SameShape r' ∧ (r.expressions.mapM f).run s = (r'.expressions, s')) ∧
    (∀ f : Scalar → Scalar, r.SameShape (r.mapExpressions f) ∧
      (r.mapExpressions f).expressions = r.expressions.map f) ∧
    r.mapExpressions id = r ∧
    (∀ f g : Scalar → Scalar,
      (r.mapExpressions f).mapExpressions g = r.mapExpressions (g ∘ f)) := by
  refine ⟨?_, ?_, ?_, ?_⟩
  · intro σ f s s' r'
    have hshape := r.sameShape_run_mapExpressionsM f s
    have hlist : (r.expressions.mapM f).run s =
        (((r.mapExpressionsM f).run s).1.expressions, ((r.mapExpressionsM f).run s).2) := by
      rw [← expressions_mapExpressionsM]
      rfl
    rw [hlist]
    constructor
    · intro h
      rw [h] at hshape ⊢
      exact ⟨hshape, rfl⟩
    · rintro ⟨hshape', h⟩
      obtain ⟨hexpressions, hstate⟩ := Prod.mk.inj h
      exact Prod.ext (hshape.eq_of_expressions hshape' hexpressions) hstate
  · intro f
    exact ⟨matches_mapExpressions (fun _ => trivial) r, expressions_mapExpressions f r⟩
  · exact r.mapExpressions_id
  · intro f g
    exact mapExpressions_mapExpressions f g r

end Relation

end TransactSql
