import Mathlib
import TransactSql.Proofs.Preparation
import TransactSql.Proofs.Threading

/-!
# Expressions that share a scope

All expressions of a statement are lowered in one scope, which is changed on the way: tables get
aliases, and parameters that are met are recorded, also by a step that fails in the end. A history
is a list of such steps, and `Scope.after` is the scope that it leaves behind.

What a history leaves behind can be said without following it. The tables are those that were
registered, each at its first registration (`tables_after`), and the recorded parameters are those
that some step noted, each with its value (`recorded_after`). Lowering reads the tables and nothing
else, so expressions do not disturb each other: `scope_orderly`.
-/

namespace TransactSql

/-! ## Tables of named values -/

/-- A table is determined by what is found in it. -/
theorem NameTable.ext_get? {α : Type} {t u : NameTable α} (h : ∀ name, t.get? name = u.get? name) :
    t = u := by
  have hmem : ∀ entry, entry ∈ t.entries ↔ entry ∈ u.entries := by
    rintro ⟨name, value⟩
    rw [← get?_eq_some, ← get?_eq_some, h]
  have hnodup : ∀ v : NameTable α, v.entries.Nodup := by
    intro v
    refine v.ascending.imp ?_
    rintro a b hlt rfl
    exact String.lt_irrefl _ hlt
  have hperm : t.entries.Perm u.entries :=
    (List.perm_ext_iff_of_nodup (hnodup t) (hnodup u)).2 hmem
  have hentries : t.entries = u.entries := by
    refine hperm.eq_of_pairwise ?_ t.ascending u.ascending
    intro a b _ _ hab hba
    exact absurd (String.lt_trans hab hba) (String.lt_irrefl _)
  cases t
  cases u
  cases hentries
  rfl

/-- How often and in which order parameters are noted does not matter. -/
theorem recordParams_congr (params : Params) (table : NameTable (Option Value))
    {noted noted' : List String} (h : ∀ name, name ∈ noted ↔ name ∈ noted') :
    recordParams params table noted = recordParams params table noted' := by
  refine NameTable.ext_get? fun name => ?_
  rw [get?_recordParams, get?_recordParams]
  simp only [h]

/-! ## Histories -/

namespace Scope

/-- What can be done in a scope. -/
inductive Step where
  | register (table : TableName)
  | aliasOf (table : TableName)
  | record (name : String)
  | lower (role : Role) (e : Scalar)

/-- The table that a step asks to register. -/
def Step.table? : Step → Option TableName
  | register table => some table
  | _ => none

/-- The tables that steps ask to register, with repetitions. -/
def registrations (steps : List Step) : List TableName :=
  steps.filterMap Step.table?

/-- The scope after a step, whether the step fails or not. -/
def step (s : Scope) : Step → Scope
  | .register table => (s.register table).2
  | .aliasOf _ => s
  | .record name => (s.record name).2
  | .lower role e => (s.lower role e).2

/-- The scope after some steps. -/
def after (s : Scope) (steps : List Step) : Scope :=
  steps.foldl step s

/-- Lowers expressions one after the other, whether they fail or not. -/
def lowerAll (s : Scope) : List (Role × Scalar) → List (Except CompileError Sql.Expr) × Scope
  | [] => ([], s)
  | (role, e) :: rest =>
    let first := s.lower role e
    let others := first.2.lowerAll rest
    (first.1 :: others.1, others.2)

/-! ## What a step does -/

theorem register_of_mem {s : Scope} {table : TableName} (h : table ∈ s.aliases.tables) :
    s.register table = (.error (.invalidExpression (.repeatedTable table)), s) := by
  have herror := Aliases.register_eq_error.2 ⟨h, rfl⟩
  simp only [register, herror]

theorem register_of_not_mem {s : Scope} {table : TableName} (h : table ∉ s.aliases.tables) :
    ∃ aliases, s.register table = (.ok s.aliases.next, { s with aliases }) ∧
      aliases.tables = s.aliases.tables ++ [table] := by
  cases hregister : s.aliases.register table with
  | error e => exact absurd (Aliases.register_eq_error.1 hregister).1 h
  | ok aliases =>
    refine ⟨aliases, ?_, Aliases.tables_of_register hregister⟩
    simp only [register, hregister]

/-- A step registers a table that is new, or leaves the tables as they are. -/
theorem tables_step (s : Scope) (x : Step) :
    (s.step x).aliases.tables =
      s.aliases.tables ++ x.table?.toList.filter (· ∉ s.aliases.tables) := by
  cases x with
  | register table =>
    by_cases h : table ∈ s.aliases.tables
    · simp [step, Step.table?, register_of_mem h, h]
    · obtain ⟨aliases, hregister, htables⟩ := register_of_not_mem h
      simp [step, Step.table?, hregister, htables, h]
  | aliasOf table | record name | lower role e =>
    simp [step, Step.table?, lower_eq, record_eq, run, recordAll]

/-- The parameters that a step notes. -/
def noted (s : Scope) : Step → List String
  | .record name => (Lowering.note name).noted
  | .lower role e => (Lower.lower s.aliases role e).noted
  | _ => []

/-- A step records what it notes, with the values that are known. -/
theorem recorded_step (s : Scope) (x : Step) :
    (s.step x).params = s.params ∧
      (s.step x).recorded = recordParams s.params s.recorded (s.noted x) := by
  cases x with
  | register table =>
    by_cases h : table ∈ s.aliases.tables
    · simp [step, noted, register_of_mem h, recordParams]
    · obtain ⟨aliases, hregister, -⟩ := register_of_not_mem h
      simp [step, noted, hregister, recordParams]
  | aliasOf table => exact ⟨rfl, rfl⟩
  | record name =>
    rw [step, record_eq]
    exact ⟨rfl, rfl⟩
  | lower role e =>
    rw [step, lower_eq]
    exact ⟨rfl, rfl⟩

/-! ## What a history comes to -/

theorem after_append_singleton (s : Scope) (steps : List Step) (x : Step) :
    s.after (steps ++ [x]) = (s.after steps).step x := by
  simp [after]

/-- The tables after a history are those that were registered, each at its first registration. -/
theorem tables_after (params : Params) (steps : List Step) :
    ((new params).after steps).aliases.tables = (registrations steps).eraseDups := by
  induction steps using List.reverseRecOn with
  | nil => rfl
  | append_singleton steps x ih =>
    have hregistrations : registrations (steps ++ [x]) =
        registrations steps ++ x.table?.toList := by
      cases hx : x.table? <;> simp [registrations, hx]
    rw [after_append_singleton, tables_step, ih, hregistrations, List.eraseDups_append]
    congr 1
    cases x.table? with
    | none => rfl
    | some table =>
      -- a table is new if it was not registered before
      by_cases hmem : table ∈ registrations steps
      · simp [List.removeAll, hmem]
      · simp [List.removeAll, hmem, List.eraseDups_cons]

/-- Nothing but noted parameters is recorded, with the values that are known. -/
theorem recorded_after (s : Scope) (steps : List Step) :
    (s.after steps).params = s.params ∧
      ∃ names, (s.after steps).recorded = recordParams s.params s.recorded names := by
  induction steps using List.reverseRecOn with
  | nil => exact ⟨rfl, [], rfl⟩
  | append_singleton steps x ih =>
    obtain ⟨hparams, names, hnames⟩ := ih
    obtain ⟨hsame, hstep⟩ := recorded_step (s.after steps) x
    rw [after_append_singleton]
    refine ⟨hsame.trans hparams, names ++ (s.after steps).noted x, ?_⟩
    rw [hstep, hparams, hnames, recordParams_append]

/-- Each recorded parameter has the value that is known for it. -/
theorem get?_recorded_after {params : Params} {steps : List Step} {name : String}
    {value : Option Value} (h : ((new params).after steps).recorded.get? name = some value) :
    value = params.get? name := by
  obtain ⟨-, names, hnames⟩ := recorded_after (new params) steps
  rw [hnames, get?_recordParams] at h
  split at h
  · exact (Option.some.inj h).symm
  · cases h

/-- A recorded parameter stays, with its value. -/
theorem recorded_after_append {params : Params} {steps : List Step} (more : List Step)
    {name : String} {value : Option Value}
    (h : ((new params).after steps).recorded.get? name = some value) :
    (((new params).after steps).after more).recorded.get? name = some value := by
  obtain ⟨hparams, -⟩ := recorded_after (new params) steps
  obtain ⟨-, names, hnames⟩ := recorded_after ((new params).after steps) more
  rw [hnames, get?_recordParams]
  split
  · -- noted once more, it gets the value that it has
    rw [get?_recorded_after h, hparams]
    rfl
  · exact h

/-! ## Lists of expressions -/

/-- The result of lowering depends on the aliases only. -/
theorem lower_fst_congr {s t : Scope} (h : s.aliases = t.aliases) (role : Role) (e : Scalar) :
    (s.lower role e).1 = (t.lower role e).1 := by
  rw [lower_fst, lower_fst, h]

/-- Each expression has the result that it has alone, and all parameters that are noted on the way
are recorded. -/
theorem lowerAll_eq (s : Scope) (es : List (Role × Scalar)) :
    s.lowerAll es =
      (es.map fun x => (s.lower x.1 x.2).1,
        s.recordAll (es.flatMap fun x => (Lower.lower s.aliases x.1 x.2).noted)) := by
  induction es generalizing s with
  | nil => rfl
  | cons x rest ih =>
    obtain ⟨role, e⟩ := x
    set t := s.recordAll (Lower.lower s.aliases role e).noted with ht
    have haliases : t.aliases = s.aliases := rfl
    have hresults : rest.map (fun x => (t.lower x.1 x.2).1) =
        rest.map fun x => (s.lower x.1 x.2).1 :=
      List.map_congr_left fun x _ => lower_fst_congr haliases x.1 x.2
    rw [List.map_cons, List.flatMap_cons, ← recordAll_recordAll, ← hresults, lowerAll,
      lower_snd, ← ht, ih]
    rfl

/-- In whatever order expressions are lowered, the scope afterwards is the same. -/
theorem lowerAll_snd_of_perm (s : Scope) {es es' : List (Role × Scalar)} (h : es.Perm es') :
    (s.lowerAll es).2 = (s.lowerAll es').2 := by
  have hnoted : ∀ name, name ∈ es.flatMap (fun x => (Lower.lower s.aliases x.1 x.2).noted) ↔
      name ∈ es'.flatMap fun x => (Lower.lower s.aliases x.1 x.2).noted := by
    intro name
    simp only [List.mem_flatMap, h.mem_iff]
  rw [lowerAll_eq, lowerAll_eq, recordAll, recordAll, recordParams_congr _ _ hnoted]

/-! ## Order in a scope -/

/-- What holds of a scope after a history that began with the values of parameters. -/
structure Orderly (params : Params) (steps : List Step) (s : Scope) : Prop where
  /-- The tables are those that were registered, in the order of their first registrations. -/
  tables : s.aliases.tables = (registrations steps).eraseDups
  tablesDistinct : s.aliases.tables.Nodup
  /-- The aliases are numbered in this order. -/
  names : s.aliases.names =
    (List.range s.aliases.tables.length).map fun number => "t" ++ toString number
  namesDistinct : s.aliases.names.Nodup
  /-- A table is found under its own alias. -/
  found : ∀ table tableAlias, s.aliasOf table = .ok tableAlias ↔
    ∃ number : Nat, s.aliases.tables[number]? = some table ∧ tableAlias = "t" ++ toString number
  /-- A table without an alias is not found. -/
  notFound : ∀ table, s.aliasOf table = .error (.unknownTable table) ↔ table ∉ s.aliases.tables
  /-- A new table gets the next alias, and nothing else changes. -/
  registered : ∀ table, table ∉ s.aliases.tables →
    ∃ aliases, s.register table =
        (.ok ("t" ++ toString s.aliases.tables.length), { s with aliases }) ∧
      aliases.tables = s.aliases.tables ++ [table]
  /-- A table that has an alias is refused, and no other. -/
  refused : ∀ table, (∃ e, (s.register table).1 = .error e) ↔ table ∈ s.aliases.tables
  /-- What is refused changes nothing. -/
  refusedUnchanged : ∀ table e, (s.register table).1 = .error e → (s.register table).2 = s
  /-- Lowering changes no alias. -/
  lowerAliases : ∀ role e, (s.lower role e).2.aliases = s.aliases
  /-- Recorded parameters have the values that were known in the beginning. -/
  recorded : ∀ name value, s.recorded.get? name = some value → value = params.get? name
  /-- They keep them, whatever follows. -/
  recordedKept : ∀ more name value, s.recorded.get? name = some value →
    (s.after more).recorded.get? name = some value
  /-- What an expression is lowered to is the same after any history with the same tables. -/
  result : ∀ params' steps', (registrations steps').eraseDups = (registrations steps).eraseDups →
    ∀ role e, (((new params').after steps').lower role e).1 = (s.lower role e).1
  /-- Lowered one after the other, expressions have the results that they have alone. -/
  results : ∀ es, (s.lowerAll es).1 = es.map fun x => (s.lower x.1 x.2).1
  /-- Their order has no influence on what is recorded in the end. -/
  order : ∀ es es', es.Perm es' → (s.lowerAll es).2 = (s.lowerAll es').2

end Scope

/-- Expressions that are lowered in one scope do not disturb each other, whatever else happens in
the scope and whether it fails or not. The tables that were registered have the aliases `t0`, `t1`
and so on; a table that is refused changes nothing, and neither does lowering change an alias;
recorded parameters stay and have the values that were known in the beginning; and lowering an
expression has a result that depends on the expression and the tables only, so that the order of
expressions has no influence on their results or on the parameters in the end. -/
theorem scope_orderly (params : Params) (steps : List Scope.Step) :
    ((Scope.new params).after steps).Orderly params steps := by
  have htables := Scope.tables_after params steps
  set s := (Scope.new params).after steps
  refine {
    tables := htables
    tablesDistinct := s.aliases.distinct
    names := rfl
    namesDistinct := s.aliases.nodup_names
    found := fun _ _ => Aliases.find_eq_ok
    notFound := ?_
    registered := fun _ => Scope.register_of_not_mem
    refused := ?_
    refusedUnchanged := ?_
    lowerAliases := fun role e => by rw [s.lower_snd role e]; rfl
    recorded := fun _ _ => Scope.get?_recorded_after
    recordedKept := fun more _ _ => Scope.recorded_after_append more
    result := ?_
    results := ?_
    order := fun _ _ => s.lowerAll_snd_of_perm }
  · intro table
    show s.aliases.find table = _ ↔ _
    rw [Aliases.find_eq_error]
    exact and_iff_left rfl
  · intro table
    by_cases hmem : table ∈ s.aliases.tables
    · simp [Scope.register_of_mem hmem, hmem]
    · obtain ⟨aliases, hregister, -⟩ := Scope.register_of_not_mem hmem
      simp [hregister, hmem]
  · intro table e he
    by_cases hmem : table ∈ s.aliases.tables
    · rw [Scope.register_of_mem hmem]
    · obtain ⟨aliases, hregister, -⟩ := Scope.register_of_not_mem hmem
      rw [hregister] at he
      cases he
  · intro params' steps' hsame role e
    have haliases : ((Scope.new params').after steps').aliases = s.aliases := by
      refine Aliases.eq_of_tables_eq ?_
      rw [Scope.tables_after, hsame, htables]
    exact Scope.lower_fst_congr haliases role e
  · intro es
    rw [Scope.lowerAll_eq]

end TransactSql
