import Mathlib.Data.Set.Card
import TransactSql.Compile.Registry

/-!
# Later entries win

A registry is built by insertions, one after the other, into a first registry. What it has for an
operation afterwards depends on the last insertion for that operation only. So a registry is a merge
of its three parts: operations that are marked as unsupported, then the last of the entries, then
the first registry (`build_merges`). That is so for handlers of every kind.

What can be asked of a registry follows from that. The operations that it lists, and those that it
counts, are found by going through `Operation.all`, which has every operation once.
-/

namespace TransactSql

/-- A table of keys after insertions, one after the other: a key has the last value that was
inserted for it, or else what it had before. -/
theorem get_foldl_insert {κ α σ : Type} [DecidableEq κ] {get : σ → κ → Option α}
    {insert : σ → κ → α → σ}
    (hinsert : ∀ s k a k', get (insert s k a) k' = if k' = k then some a else get s k')
    (entries : List (κ × α)) (s : σ) (k : κ) :
    get (entries.foldl (fun s entry => insert s entry.1 entry.2) s) k =
      (entries.reverse.lookup k).or (get s k) := by
  induction entries generalizing s with
  | nil => rfl
  | cons entry entries ih =>
    obtain ⟨key, a⟩ := entry
    have hfirst : get (insert s key a) k = ([(key, a)].lookup k).or (get s k) := by
      rw [hinsert]
      by_cases hk : k = key
      · simp [hk]
      · simp [hk, List.lookup_cons, beq_eq_false_iff_ne.2 hk]
    rw [List.foldl_cons, ih, List.reverse_cons, List.lookup_append, Option.or_assoc, hfirst]

/-- In a list of entries in which a key stands, it has a last value. -/
theorem isSome_lookup_reverse {κ α : Type} [DecidableEq κ] {entries : List (κ × α)} {k : κ} :
    (entries.reverse.lookup k).isSome ↔ k ∈ entries.map Prod.fst := by
  rw [List.lookup_isSome_iff]
  simp

/-! ## The order of listings -/

namespace Operation

/-- Operations are listed by ascending index. -/
theorem pairwise_index_all : all.Pairwise fun a b => a.index < b.index := by
  rw [List.pairwise_iff_getElem]
  intro i j hi hj hij
  unfold index
  rwa [nodup_all.idxOf_getElem i hi, nodup_all.idxOf_getElem j hj]

/-- Going through the listing counts the operations that a test lets through. -/
theorem countP_all (p : Operation → Bool) : all.countP p = {op | p op}.ncard := by
  have hset : {op | p op} = ((all.filter p).toFinset : Set Operation) := by
    ext op
    simp [mem_all]
  rw [hset, Set.ncard_coe_finset, List.toFinset_card_of_nodup (nodup_all.filter p),
    List.countP_eq_length_filter]

end Operation

/-! ## Registries -/

namespace Registry

variable {H : Type}

/-- The handler of an operation by precedence: a refusal where the operation is marked as
unsupported, or else the last entry, or else the first handler. -/
def merged [Handlers H] (first : Registry H) (entries : List (Operation × H))
    (unsupported : List Operation) (op : Operation) : Option H :=
  if op ∈ unsupported then some Handlers.refusal
  else (entries.reverse.lookup op).or (first.get? op)

theorem get?_insert (r : Registry H) (op : Operation) (handler : H) (o : Operation) :
    (r.insert op handler).get? o = if o = op then some handler else r.get? o := rfl

theorem lookup_eq (r : Registry H) (node : Node) :
    r.lookup node = (r.get? node.kind).elim
      (.error (.unsupportedOperation node.kind node.toScalar.shown)) .ok := by
  unfold lookup
  cases r.get? node.kind <;> rfl

variable [Handlers H] {first : Registry H} {entries : List (Operation × H)}
  {unsupported : List Operation} {op : Operation}

/-- Marks are insertions of a refusal. -/
theorem get?_foldl_unsupported (unsupported : List Operation) (r : Registry H) (op : Operation) :
    (unsupported.foldl (fun r op => r.insert op Handlers.refusal) r).get? op =
      if op ∈ unsupported then some Handlers.refusal else r.get? op := by
  induction unsupported generalizing r with
  | nil => rfl
  | cons mark rest ih =>
    rw [List.foldl_cons, ih, get?_insert]
    by_cases hrest : op ∈ rest
    · simp [hrest]
    · simp [hrest]

theorem get?_build (first : Registry H) (entries : List (Operation × H))
    (unsupported : List Operation) (op : Operation) :
    (build first entries unsupported).get? op = merged first entries unsupported op := by
  unfold build merged
  rw [get?_foldl_unsupported, get_foldl_insert get?_insert entries first op]

theorem isSome_merged :
    (merged first entries unsupported op).isSome ↔
      (first.get? op).isSome ∨ op ∈ entries.map Prod.fst ∨ op ∈ unsupported := by
  unfold merged
  split
  · next hmark => simp [hmark]
  · next hmark =>
    rw [Option.isSome_or, Bool.or_eq_true, isSome_lookup_reverse, or_iff_left hmark]
    exact or_comm

theorem supports_iff {r : Registry H} :
    r.supports op ↔ ∃ handler, r.get? op = some handler ∧ handler ≠ Handlers.refusal := by
  simp [supports, Option.any_eq_true, ← Handlers.refuses_iff]

theorem mem_unsupported {r : Registry H} :
    op ∈ r.unsupported ↔ r.get? op = some Handlers.refusal := by
  simp [Registry.unsupported, Operation.mem_all, Option.any_eq_true, Handlers.refuses_iff]

theorem pairwise_unsupported (r : Registry H) :
    r.unsupported.Pairwise fun a b => a.index < b.index :=
  Operation.pairwise_index_all.filter _

/-- A registry is the merge of its three parts, and all that can be asked of it follows: which
operations it supports, which it lists as unsupported, by ascending index, how many have a handler,
and that looking up a handler fails where there is none. Whatever lists come after those of the
server, an operation that the server does not support stays unsupported. All this holds for handlers
of every kind; as which of them the server's own handlers come does not matter. -/
theorem build_merges {H : Type} [Handlers H] (first : Registry H)
    (entries : List (Operation × H)) (unsupported : List Operation) :
    let r := build first entries unsupported
    (∀ op, r.get? op = merged first entries unsupported op) ∧
    (∀ op, r.supports op ↔
      ∃ handler, merged first entries unsupported op = some handler ∧
        handler ≠ Handlers.refusal) ∧
    (∀ op, op ∈ r.unsupported ↔
      merged first entries unsupported op = some Handlers.refusal) ∧
    r.unsupported.Pairwise (fun a b => a.index < b.index) ∧
    r.size = {op | (first.get? op).isSome ∨ op ∈ entries.map Prod.fst ∨
      op ∈ unsupported}.ncard ∧
    (∀ node, r.lookup node = (merged first entries unsupported node.kind).elim
      (.error (.unsupportedOperation node.kind node.toScalar.shown)) .ok) ∧
    (∀ as : Handler → H, ∀ op ∈ serverUnsupported,
      let extended := build first (serverEntries.map (Prod.map id as) ++ entries)
        (serverUnsupported ++ unsupported)
      extended.get? op = some Handlers.refusal ∧ ¬ extended.supports op ∧
        op ∈ extended.unsupported) := by
  intro r
  have hget : ∀ op, r.get? op = merged first entries unsupported op :=
    get?_build first entries unsupported
  refine ⟨hget, ?_, ?_, pairwise_unsupported r, ?_, ?_, ?_⟩
  · intro op
    rw [supports_iff, hget]
  · intro op
    rw [mem_unsupported, hget]
  · unfold size
    rw [Operation.countP_all]
    simp only [hget, isSome_merged]
  · intro node
    rw [lookup_eq, hget]
  · intro as op hop extended
    have hmarked : extended.get? op = some Handlers.refusal := by
      rw [get?_build]
      exact if_pos (List.mem_append_left unsupported hop)
    refine ⟨hmarked, ?_, mem_unsupported.2 hmarked⟩
    rw [supports_iff, hmarked]
    rintro ⟨handler, hhandler, hsupported⟩
    exact hsupported (Option.some.inj hhandler).symm

/-- Entries that repeat an operation, refuse one and replace a generic handler, with a mark that is
given twice and one that an entry contradicts. -/
theorem build_merges_conflicting_entries :
    let entries : List (Operation × Handler) :=
      [(.hash, .unary "first"), (.modulus, .fixed "mod" 2), (.abs, .unsupported),
        (.hash, .unary "checksum"), (.ceil, .unary "ceiling")]
    let r := build generic entries [.modulus, .truncate, .modulus]
    r.get? .hash = some (.unary "checksum") ∧ r.get? .modulus = some .unsupported ∧
      r.get? .ceil = some (.unary "ceiling") ∧ r.get? .sum = some (.reduction "sum" none) ∧
      r.unsupported = [.modulus, .abs, .truncate] ∧ ¬ r.supports .abs ∧ r.supports .hash ∧
      r.size = 66 ∧ Operation.modulus ∈ serverUnsupported ∧
      (build generic (serverEntries.map (Prod.map id id) ++ entries)
        (serverUnsupported ++ [.truncate])).get? .modulus = some .unsupported := by
  intro entries r
  obtain ⟨hget, -⟩ := build_merges generic entries [.modulus, .truncate, .modulus]
  obtain ⟨-, -, -, -, -, -, hextended⟩ := build_merges generic entries [.truncate]
  have hmarked : Operation.modulus ∈ serverUnsupported := by decide
  refine ⟨?_, ?_, ?_, ?_, by decide, by decide, by decide, by decide, hmarked, ?_⟩
  · rw [hget]; decide
  · rw [hget]; decide
  · rw [hget]; decide
  · rw [hget]; decide
  · exact (hextended id .modulus hmarked).1

end Registry

end TransactSql
