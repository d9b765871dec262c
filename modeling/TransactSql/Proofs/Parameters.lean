import Mathlib
import TransactSql.Proofs.Binding
import TransactSql.Proofs.Placeholders

/-!
# The parameters of compiled statements

Parameters are noted one by one while expressions are lowered, and the statement is put together
apart from the notes. `params_of_compile` says that the two agree: the table of a compiled statement
has exactly the parameters that occur in the statement, each with the value that was given for it.

The table is about the statement and not about its text. A parameter that the text leaves out, in
the operand of a membership test without values, is still asked for
(`placeholder_or_elided_of_compile`).
-/

namespace TransactSql

open Sql (Expr Token Elided)

/-! ## Tables -/

theorem NameTable.mem_names {α : Type} {table : NameTable α} {name : String} :
    name ∈ table.names ↔ (table.get? name).isSome := by
  unfold names get?
  rw [List.lookup_isSome_iff, List.mem_map]
  constructor
  · rintro ⟨entry, hentry, rfl⟩
    exact ⟨entry, hentry, beq_self_eq_true _⟩
  · rintro ⟨entry, hentry, heq⟩
    exact ⟨entry, hentry, (eq_of_beq heq).symm⟩

/-- Recording gives each noted parameter its value or none, however often it is noted, and leaves
all others as they are. -/
theorem get?_recordParams (params : Params) (table : NameTable (Option Value))
    (noted : List String) (name : String) :
    (recordParams params table noted).get? name =
      if name ∈ noted then some (params.get? name) else table.get? name := by
  unfold recordParams
  induction noted generalizing table with
  | nil => simp
  | cons first rest ih =>
    rw [List.foldl_cons, ih, NameTable.get?_insert]
    by_cases hrest : name ∈ rest
    · simp [hrest]
    · by_cases hfirst : name = first
      · simp [hfirst]
      · simp [hrest, hfirst]

/-- The values for a statement are there when every parameter has one, and then they are the whole
table. -/
theorem Compiled.args_eq_ok {c : Compiled} {args : List (String × Value)} :
    c.args = .ok args ↔ c.params.entries = args.map fun arg => (arg.1, some arg.2) := by
  unfold Compiled.args
  generalize c.params.entries = entries
  induction entries generalizing args with
  | nil => cases args <;> simp [pure, Except.pure]
  | cons entry rest ih =>
    obtain ⟨name, value⟩ := entry
    rw [List.mapM_cons, exceptBind_eq_ok]
    cases value with
    | none => cases args <;> simp [boundArg]
    | some value =>
      simp only [boundArg, Except.ok.injEq, exists_eq_left', exceptBind_eq_ok, ih]
      cases args with
      | nil => simp [pure, Except.pure]
      | cons arg args =>
        obtain ⟨argName, argValue⟩ := arg
        simp [pure, Except.pure, and_comm]

/-! ## Names -/

/-- The characters that a name of a variable starts with: letters of ASCII and the underscore. -/
def StartsName (c : Char) : Prop :=
  'A' ≤ c ∧ c ≤ 'Z' ∨ 'a' ≤ c ∧ c ≤ 'z' ∨ c = '_'

/-- A name of a variable: letters, digits and underscores, with no digit in front. -/
def IsIdentifier (name : String) : Prop :=
  ∃ first rest, name.toList = first :: rest ∧ StartsName first ∧
    ∀ c ∈ rest, StartsName c ∨ '0' ≤ c ∧ c ≤ '9'

theorem startsName_iff {c : Char} : (c.isAlpha || c == '_') ↔ StartsName c := by
  simp [StartsName, Char.isAlpha, Char.isUpper, Char.isLower, Char.le_def, or_assoc]

theorem isIdentifier_of_isParamName {name : String} (h : isParamName name) :
    IsIdentifier name := by
  unfold isParamName at h
  split at h
  · cases h
  · next first rest hname =>
    rw [Bool.and_eq_true, List.all_eq_true] at h
    refine ⟨first, rest, hname, startsName_iff.1 h.1, ?_⟩
    intro c hc
    have hclass : (c.isAlpha || c == '_') ∨ c.isDigit := by
      simpa [Char.isAlphanum, or_right_comm] using h.2 c hc
    refine hclass.imp startsName_iff.1 ?_
    simp [Char.isDigit, Char.le_def]

/-! ## Compiled statements -/

section

variable {query : Query} {params : Params} {c : Compiled}

/-- The table has what was given for the parameters of the statement, and nothing else. -/
theorem get?_params_of_compile (h : compile query params = .ok c) (name : String) :
    (Expr.param name ∈ c.select.subterms → c.params.get? name = some (params.get? name)) ∧
      (Expr.param name ∉ c.select.subterms → c.params.get? name = none) := by
  obtain ⟨aliases, hbound, hparams⟩ := bound_of_compile h
  rw [hparams, get?_recordParams, ← Sql.Select.param_mem_references, ← hbound.traces.noted]
  constructor
  · intro hnoted
    rw [if_pos hnoted]
  · intro hnoted
    rw [if_neg hnoted, NameTable.get?_empty]

theorem mem_names_of_compile (h : compile query params = .ok c) (name : String) :
    name ∈ c.params.names ↔ Expr.param name ∈ c.select.subterms := by
  obtain ⟨hmem, hnot⟩ := get?_params_of_compile h name
  rw [NameTable.mem_names]
  constructor
  · intro hsome
    by_contra habsent
    simp [hnot habsent] at hsome
  · intro hpresent
    simp [hmem hpresent]

theorem isIdentifier_of_compile (h : compile query params = .ok c) {name : String}
    (hname : Expr.param name ∈ c.select.subterms) : IsIdentifier name := by
  obtain ⟨aliases, hbound, -⟩ := bound_of_compile h
  obtain ⟨e, -, hresolves⟩ :=
    hbound.traces.exists_origin (Sql.Select.param_mem_references.2 hname)
  cases hresolves with
  | param hparam type => exact isIdentifier_of_isParamName hparam

/-- The parameters of a statement are those whose placeholders are written, and those that are
elided. -/
theorem mem_names_iff_placeholder (h : compile query params = .ok c) (name : String) :
    name ∈ c.params.names ↔
      Token.param name ∈ c.select.tokens .tsql ∨ Elided name c.select.subterms :=
  (mem_names_of_compile h name).trans (c.select.accounts name)

end

/-- The table of a compiled statement matches the statement. Its names are the parameters that occur
in the statement, in whatever clause, and all are identifiers; each has the value that was given for
it, or none; what was given for other names is not in it; and every placeholder of the text has an
entry. -/
theorem params_of_compile (query : Query) (params : Params) (c : Compiled)
    (h : compile query params = .ok c) :
    (∀ name, name ∈ c.params.names ↔ Expr.param name ∈ c.select.subterms) ∧
    (∀ name ∈ c.params.names, IsIdentifier name) ∧
    (∀ name ∈ c.params.names, c.params.get? name = some (params.get? name)) ∧
    (∀ name, Expr.param name ∉ c.select.subterms → c.params.get? name = none) ∧
    (∀ name, Token.param name ∈ c.select.tokens .tsql → name ∈ c.params.names) := by
  refine ⟨mem_names_of_compile h, ?_, ?_, ?_, ?_⟩
  · intro name hname
    exact isIdentifier_of_compile h ((mem_names_of_compile h name).1 hname)
  · intro name hname
    exact (get?_params_of_compile h name).1 ((mem_names_of_compile h name).1 hname)
  · intro name hname
    exact (get?_params_of_compile h name).2 hname
  · intro name htoken
    exact (mem_names_iff_placeholder h name).2 (.inl htoken)

/-- One parameter in four clauses and with a value, one in a filter and without, and a value for
a name that does not occur. -/
theorem params_of_compile_several_clauses :
    let a : Scalar := .param "a" .boolean
    let query : Query := .relation (.aggregation (.table ⟨⟨none, "t"⟩, []⟩) {
      keys := [⟨"k", a⟩]
      metrics := [⟨"m", .op .sum [a] none (some (.param "_b1" .boolean))⟩]
      predicates := [a]
      having := [.apply .notNull [a]] })
    let params : Params := .ofList [("a", .bool true), ("z", .null)]
    ∃ c, compile query params = .ok c ∧ c.params.names = ["_b1", "a"] ∧
      IsIdentifier "_b1" ∧ c.params.get? "_b1" = some none ∧
      c.params.get? "a" = some (some (.bool true)) ∧ Expr.param "_b1" ∈ c.select.subterms := by
  intro a query params
  have hc : ∃ c, compile query params = .ok c ∧ c.params.names = ["_b1", "a"] :=
    ⟨_, rfl, by decide +kernel⟩
  obtain ⟨c, hc, hnames⟩ := hc
  obtain ⟨hmem, hidentifier, hvalue, -, -⟩ := params_of_compile query params c hc
  have hb : "_b1" ∈ c.params.names := by simp [hnames]
  have ha : "a" ∈ c.params.names := by simp [hnames]
  exact ⟨c, hc, hnames, hidentifier _ hb, hvalue _ hb, hvalue _ ha, (hmem _).1 hb⟩

/-- A compiled statement asks for the parameters whose placeholders its text has, and for those that
its text leaves out, as they are in the operand of a membership test without values. The values that
are sent are those of all parameters, and there are none while one of them has no value. -/
theorem placeholder_or_elided_of_compile (query : Query) (params : Params) (c : Compiled)
    (h : compile query params = .ok c) :
    (∀ name, name ∈ c.params.names ↔
      Token.param name ∈ c.select.tokens .tsql ∨ Elided name c.select.subterms) ∧
    (∀ args, c.args = .ok args ↔
      c.params.entries = args.map fun arg => (arg.1, some arg.2)) :=
  ⟨mem_names_iff_placeholder h, fun _ => Compiled.args_eq_ok⟩

/-- In `@x IN () OR @y = @y` the operand of the first test is left out, and both parameters are
asked for. -/
theorem placeholder_or_elided_of_compile_empty_list :
    let x : Scalar := .param "x" .int64
    let y : Scalar := .param "y" .int64
    let query : Query := .scalar (.apply .or [.apply .isIn [x], .apply .equals [y, y]]) none
    ∃ c, compile query .empty = .ok c ∧ "x" ∈ c.params.names ∧ "y" ∈ c.params.names ∧
      Token.param "x" ∉ c.select.tokens .tsql ∧ Elided "x" c.select.subterms := by
  intro x y query
  have hc : ∃ c, compile query .empty = .ok c ∧ "x" ∈ c.params.names ∧
      Token.param "x" ∉ c.select.tokens .tsql ∧ Token.param "y" ∈ c.select.tokens .tsql :=
    ⟨_, rfl, by decide +kernel, by decide +kernel, by decide +kernel⟩
  obtain ⟨c, hc, hname, hx, hy⟩ := hc
  obtain ⟨hmem, -⟩ := placeholder_or_elided_of_compile query .empty c hc
  exact ⟨c, hc, hname, (hmem "y").2 (.inl hy), hx, ((hmem "x").1 hname).resolve_left hx⟩

/-- `@x IN ()` is written without its operand: there is no placeholder, and the statement cannot be
run before the parameter has a value. -/
theorem elided_param_is_asked_for :
    ∃ c, compile (.scalar (.apply .isIn [.param "x" .int64]) none) .empty = .ok c ∧
      "x" ∈ c.params.names ∧ c.args = .error (.unboundParameter "x") ∧
      Token.param "x" ∉ c.select.tokens .tsql := by
  refine ⟨_, rfl, ?_, rfl, ?_⟩
  · decide +kernel
  · decide +kernel

end TransactSql
