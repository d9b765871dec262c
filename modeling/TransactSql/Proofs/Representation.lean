import Mathlib
import TransactSql.Client.Session
import TransactSql.Proofs.Preparation

/-!
# Values as literals and as arguments

A value reaches the server in one of two ways: as a literal in the text of a statement, or as an
argument beside it. A literal of a number that is not finite is refused, because SQL has no form for
it. As an argument such a number is not refused: it is sent as null, and the statement runs with
another value than the one that was bound (`not_a_number_sent_as_null`).

These are the only values that are treated differently. Nothing but null is sent as null exactly if
SQL has a form for every value of a parameter (`null_sent_only_for_null`).
-/

namespace TransactSql

/-! ## Values without a form in SQL -/

namespace Lower

variable {value : Value} {type : Option LogicalType} {x : Binary64}

/-- A literal that has its natural form fails in a cast only, and never for want of a form. -/
theorem literal_ne_notFinite {e : Sql.Expr} (h : naturalLiteral value = .ok e) :
    literal value type ≠ .error (.invalidExpression (.notFinite x)) := by
  cases type with
  | none =>
    have hliteral : literal value none = .ok e := by
      rw [literal, h]
      rfl
    rw [hliteral]
    nofun
  | some t =>
    have hliteral : literal value (some t) =
        if value.naturalType = some t then .ok e else castTo e t := by
      rw [literal, h]
      rfl
    rw [hliteral]
    split
    · nofun
    · unfold castTo LogicalType.castName
      cases t.native? <;> nofun

theorem literal_of_not_isFinite (h : x.isFinite = false) :
    literal (.float x) type = .error (.invalidExpression (.notFinite x)) := by
  have hnatural : naturalLiteral (.float x) = .error (.invalidExpression (.notFinite x)) := by
    rw [naturalLiteral, h]
    rfl
  rw [literal, hnatural]
  rfl

/-- The values whose literals are refused for want of a form, whatever type they are given. -/
theorem literal_eq_notFinite_iff :
    literal value type = .error (.invalidExpression (.notFinite x)) ↔
      value = .float x ∧ x.isFinite = false := by
  constructor
  · intro h
    cases value with
    | float y =>
      cases hy : y.isFinite with
      | true => exact absurd h (literal_ne_notFinite (if_pos hy))
      | false =>
        rw [literal_of_not_isFinite hy] at h
        cases h
        exact ⟨rfl, hy⟩
    | _ => exact absurd h (literal_ne_notFinite rfl)
  · rintro ⟨rfl, hx⟩
    exact literal_of_not_isFinite hx

end Lower

namespace Value

/-- SQL has no form for a value: a literal of it is refused for this reason. -/
def Unrepresented (v : Value) : Prop :=
  ∃ aliases type x, (Lower.lower aliases .value (.literal v type)).result =
    .error (.invalidExpression (.notFinite x))

/-- These are the numbers that are not finite. -/
theorem unrepresented_iff {v : Value} :
    v.Unrepresented ↔ ∃ x, v = .float x ∧ x.isFinite = false := by
  unfold Unrepresented
  constructor
  · rintro ⟨aliases, type, x, h⟩
    rw [Lower.result_lower_literal, Lower.literal_eq_notFinite_iff] at h
    exact ⟨x, h⟩
  · rintro ⟨x, h⟩
    refine ⟨.empty, none, x, ?_⟩
    rw [Lower.result_lower_literal]
    exact Lower.literal_eq_notFinite_iff.2 h

theorem Unrepresented.ne_null {v : Value} (h : v.Unrepresented) : v ≠ .null := by
  obtain ⟨x, rfl, -⟩ := unrepresented_iff.1 h
  nofun

/-- What is sent as null is null or has no form in SQL. -/
theorem toJson_eq_null_iff {v : Value} : v.toJson = .null ↔ v = .null ∨ v.Unrepresented := by
  rw [unrepresented_iff]
  cases v with
  | float x => cases h : x.isFinite <;> simp [toJson, h]
  | _ => simp [toJson, Json.ofInt]

end Value

/-! ## Arguments -/

open Compiled (Step)

namespace Compiled

/-- What arguments have to do with the values that are given for the parameters of a statement. -/
structure Carries (c : Compiled) (given : String → Option Value) (args : List (String × Value)) :
    Prop where
  /-- There is one argument for each parameter. -/
  names : args.map (·.1) = c.params.names
  /-- An argument has the value that is given for it. -/
  values : ∀ arg ∈ args, given arg.1 = some arg.2
  /-- Nothing but null is sent as null exactly if SQL has a form for all values of parameters. -/
  nulls : (∀ arg ∈ args, arg.2 ≠ .null → arg.2.toJson ≠ .null) ↔
    ∀ name ∈ c.params.names, ∀ v, given name = some v → ¬v.Unrepresented

theorem Carries.of_values {c : Compiled} {given : String → Option Value}
    {args : List (String × Value)} (hnames : args.map (·.1) = c.params.names)
    (hvalues : ∀ arg ∈ args, given arg.1 = some arg.2) : c.Carries given args := by
  refine ⟨hnames, hvalues, ?_⟩
  rw [← hnames]
  constructor
  · intro hkept name hname v hv
    obtain ⟨arg, harg, rfl⟩ := List.mem_map.1 hname
    obtain rfl : arg.2 = v := Option.some.inj ((hvalues arg harg).symm.trans hv)
    intro hrefused
    exact hkept arg harg hrefused.ne_null (Value.toJson_eq_null_iff.2 (.inr hrefused))
  · intro hgiven arg harg hne hnull
    have hrefused := (Value.toJson_eq_null_iff.1 hnull).resolve_left hne
    exact hgiven arg.1 (List.mem_map_of_mem harg) arg.2 (hvalues arg harg) hrefused

/-- The arguments after some steps have what was bound last to their names, or else what was given
with the query. -/
theorem carries_of_run {query : Query} {params : Params} {c : Compiled} {steps : List Step}
    {args : List (String × Value)} (hc : compile query params = .ok c)
    (hargs : (c.run steps).args = .ok args) :
    c.Carries (fun name => (Step.lastValue? name steps).or (params.get? name)) args := by
  obtain ⟨hnames, hvalues⟩ := args_spec hargs
  have hidentifier : ∀ name ∈ c.params.names, IsIdentifier name := by
    intro name hname
    exact isIdentifier_of_compile hc ((mem_names_of_compile hc name).1 hname)
  rw [run_eq hidentifier] at hnames hvalues
  rw [names_foldl_bound] at hnames
  refine .of_values hnames ?_
  intro arg harg
  have hmem : arg.1 ∈ c.params.names := hnames ▸ List.mem_map_of_mem harg
  have hgiven : c.params.get? arg.1 = some (params.get? arg.1) :=
    (get?_params_of_compile hc arg.1).1 ((mem_names_of_compile hc arg.1).1 hmem)
  have hvalue := hvalues arg harg
  rw [get?_foldl_bound hmem, hgiven] at hvalue
  unfold Step.lastValue?
  cases hbound : (Step.bindings steps).reverse.lookup arg.1 with
  | none => simpa [hbound] using hvalue
  | some value => simpa [hbound] using hvalue

end Compiled

/-- A call that is sent for a query has the arguments of its statement, on which a limit may have
been put. -/
theorem Client.of_execute_call {c : Client} {query : Query} {limit : RowLimit} {params : Params}
    {call : Call} (h : (c.execute query limit params).call? = some call) :
    ∃ compiled steps args, compile query params = .ok compiled ∧ Step.bindings steps = [] ∧
      (compiled.run steps).args = .ok args ∧
      call = .execute c.server (compiled.run steps).sql args := by
  unfold execute at h
  cases hprepare : c.prepare query limit params with
  | error e => simp [hprepare, Action.call?] at h
  | ok result =>
    obtain ⟨sql, args⟩ := result
    simp only [hprepare, asking, Action.call?, Option.some.injEq] at h
    unfold prepare at hprepare
    obtain ⟨compiled, hcompiled, hprepare⟩ := exceptBind_eq_ok.1 hprepare
    obtain ⟨args', hargs, hresult⟩ := exceptBind_eq_ok.1 hprepare
    cases hresult
    cases hlimit : limit.resolve c.settings.defaultLimit with
    | none =>
      simp only [hlimit] at hargs h
      exact ⟨compiled, [], args, hcompiled, rfl, hargs, h.symm⟩
    | some n =>
      simp only [hlimit] at hargs h
      exact ⟨compiled, [.limit n], args, hcompiled, rfl, hargs, h.symm⟩

/-- The arguments of a statement are the values of its parameters, and only null is sent as null
exactly if SQL has a form for each of these values: in the call that runs a query, and after
whatever steps on the compiled statement. -/
theorem null_sent_only_for_null (client : Client) (query : Query) (limit : RowLimit)
    (params : Params) (compiled : Compiled) (hcompiled : compile query params = .ok compiled)
    (steps : List Step) :
    (∀ call, (client.execute query limit params).call? = some call →
      ∃ sql args, call = .execute client.server sql args ∧ compiled.Carries params.get? args) ∧
    (∀ args, (compiled.run steps).args = .ok args →
      compiled.Carries (fun name => (Step.lastValue? name steps).or (params.get? name)) args) := by
  constructor
  · intro call hcall
    obtain ⟨compiled', steps', args, hcompiled', hnone, hargs, rfl⟩ :=
      Client.of_execute_call hcall
    cases hcompiled.symm.trans hcompiled'
    refine ⟨_, args, rfl, ?_⟩
    have hcarries := Compiled.carries_of_run hcompiled hargs
    simpa [Step.lastValue?, hnone] using hcarries
  · intro args hargs
    exact Compiled.carries_of_run hcompiled hargs

/-- Null and the largest finite number are given with the query, and a text is bound in the place of
null. -/
theorem null_sent_only_for_null_several_values :
    let client : Client := ⟨{}, {}⟩
    let query : Query := .scalar (.apply .equals [.param "a" .float64, .param "b" .float64]) none
    let params : Params := .ofList [("a", .null), ("b", .float ⟨0x7fefffffffffffff⟩)]
    let steps : List Step := [.limit 3, .bind "a" (.string "NaN")]
    ∃ compiled, compile query params = .ok compiled ∧
      (∃ call, (client.execute query .unlimited params).call? = some call ∧
        ∃ sql args, call = .execute client.server sql args ∧
          compiled.Carries params.get? args) ∧
      ∃ args, (compiled.run steps).args = .ok args ∧
        args = [("a", .string "NaN"), ("b", .float ⟨0x7fefffffffffffff⟩)] ∧
        compiled.Carries (fun name => (Step.lastValue? name steps).or (params.get? name)) args := by
  intro client query params steps
  have hcompiled : ∃ compiled, compile query params = .ok compiled ∧
      (compiled.run steps).args =
        .ok [("a", .string "NaN"), ("b", .float ⟨0x7fefffffffffffff⟩)] := ⟨_, rfl, by decide⟩
  obtain ⟨compiled, hcompiled, hargs⟩ := hcompiled
  have hsent : (client.execute query .unlimited params).call?.isSome := by decide
  obtain ⟨call, hcall⟩ := Option.isSome_iff_exists.1 hsent
  obtain ⟨hexecute, hrun⟩ :=
    null_sent_only_for_null client query .unlimited params compiled hcompiled steps
  exact ⟨compiled, hcompiled, ⟨call, hcall, hexecute call hcall⟩, _, hargs, rfl, hrun _ hargs⟩

/-- A number that is not finite is refused as a literal. As an argument it is sent as null, whether
it was given with the query or was bound to the parameter. -/
theorem not_a_number_sent_as_null :
    let client : Client := ⟨{}, {}⟩
    let query : Query := .scalar (.param "x" .float64) none
    let nan : Value := .float ⟨0x7ff8000000000000⟩
    nan.Unrepresented ∧ nan ≠ .null ∧
    (∃ sql, (client.execute query .default (.ofList [("x", nan)])).call? =
      some (.execute client.server sql [("x", nan)])) ∧
    Call.argument ("x", nan) = .object [("name", .string "x"), ("value", .null)] ∧
    ∃ compiled next, compile query .empty = .ok compiled ∧ compiled.bind "x" nan = .ok next ∧
      next.args = .ok [("x", nan)] := by
  intro client query nan
  refine ⟨Value.unrepresented_iff.2 ⟨_, rfl, by decide⟩, nofun, ⟨_, rfl⟩, ?_, _, _, rfl, rfl, rfl⟩
  rfl

end TransactSql
