import Mathlib
import TransactSql.Proofs.Parameters

/-!
# Preparing a compiled statement

Before a compiled statement is run, values are bound to its parameters and its limit is lowered, in
whatever order and as often as wanted; a value for a name that the statement does not have is
refused. `prepared_of_compile` says what any sequence of such steps comes to. The two kinds of steps
work on different parts: `run_eq` takes a run apart into what its bindings do to the table of
parameters and what its limits do to the page. So the order of steps of different kinds has no
influence, and bindings never change the text.

Values that are known already when a statement is compiled are recorded beside it.
`statement_independent_of_values` compares compiling with two sets of values: all that is known of
the statement, its text and the names of its parameters, or the error, is the same.
-/

namespace TransactSql

open Sql (Select Paging OrderItem Token commaSeparated clause render)

/-! ## Steps -/

namespace Compiled

/-- What can be done to a compiled statement before it is run. -/
inductive Step where
  | bind (name : String) (value : Value)
  | limit (n : UInt64)

namespace Step

/-- What a step binds. -/
def binding? : Step → Option (String × Value)
  | bind name value => some (name, value)
  | limit _ => none

/-- The limit that a step sets. -/
def limit? : Step → Option UInt64
  | bind _ _ => none
  | limit n => some n

/-- What steps bind, in their order. -/
def bindings (steps : List Step) : List (String × Value) :=
  steps.filterMap binding?

/-- The limits that steps set, in their order. -/
def limits (steps : List Step) : List UInt64 :=
  steps.filterMap limit?

/-- What the last of the steps that bind a name binds to it. -/
def lastValue? (name : String) (steps : List Step) : Option Value :=
  (bindings steps).reverse.lookup name

end Step

/-- One step. A binding that is refused changes nothing. -/
def step (c : Compiled) : Step → Compiled
  | .bind name value =>
    match c.bind name value with
    | .ok next => next
    | .error _ => c
  | .limit n => c.withLimit n

/-- Steps, one after the other. -/
def run (c : Compiled) (steps : List Step) : Compiled :=
  steps.foldl step c

end Compiled

/-! ## Bindings -/

theorem isParamName_iff {name : String} : isParamName name ↔ IsIdentifier name := by
  refine ⟨isIdentifier_of_isParamName, ?_⟩
  rintro ⟨first, rest, hname, hfirst, hrest⟩
  unfold isParamName
  rw [hname]
  simp only [Bool.and_eq_true, List.all_eq_true]
  refine ⟨startsName_iff.2 hfirst, ?_⟩
  intro c hc
  rcases hrest c hc with hstart | hdigit
  · have hclass : c.isAlpha ∨ c = '_' := by simpa using startsName_iff.2 hstart
    rcases hclass with halpha | hunderscore
    · simp [Char.isAlphanum, halpha]
    · simp [hunderscore]
  · have hclass : c.isDigit := by simpa [Char.isDigit, Char.le_def] using hdigit
    simp [Char.isAlphanum, hclass]

instance (name : String) : Decidable (IsIdentifier name) :=
  decidable_of_iff (isParamName name) isParamName_iff

namespace NameTable

variable {α : Type}

theorem contains_iff {table : NameTable α} {name : String} :
    table.contains name ↔ name ∈ table.names :=
  mem_names.symm

theorem ascending_names (table : NameTable α) : table.names.Pairwise (· < ·) :=
  List.pairwise_map.2 table.ascending

/-- A value for a name that is there already goes to its place. -/
theorem map_fst_place_of_mem {name : String} (value : α) {entries : List (String × α)}
    (hascending : entries.Pairwise fun a b => a.1 < b.1) (hmem : name ∈ entries.map (·.1)) :
    (place name value entries).map (·.1) = entries.map (·.1) := by
  induction entries with
  | nil => simp at hmem
  | cons entry rest ih =>
    obtain ⟨hentry, hrest⟩ := List.pairwise_cons.1 hascending
    rw [List.map_cons, List.mem_cons] at hmem
    unfold place
    split
    · next hlt =>
      -- all names that are there are greater than a name before the first of them
      exfalso
      rcases hmem with rfl | hmem
      · exact String.lt_irrefl _ hlt
      · obtain ⟨other, hother, rfl⟩ := List.mem_map.1 hmem
        exact String.lt_irrefl _ (String.lt_trans hlt (hentry other hother))
    · split
      · next heq => rw [List.map_cons, List.map_cons, heq]
      · next hne => rw [List.map_cons, List.map_cons, ih hrest (hmem.resolve_left hne)]

theorem names_insert_of_mem {table : NameTable α} {name : String} (h : name ∈ table.names)
    (value : α) : (table.insert name value).names = table.names :=
  map_fst_place_of_mem value table.ascending h

end NameTable

namespace Compiled

/-- The outcome of binding: names that are no identifiers are refused first. -/
theorem bind_eq (c : Compiled) (name : String) (value : Value) :
    c.bind name value =
      if ¬IsIdentifier name then .error (.invalidExpression (.paramName name))
      else if name ∉ c.params.names then .error (.unknownParameter name)
      else .ok { c with params := c.params.insert name (some value) } := by
  unfold bind checkParamName
  by_cases hname : isParamName name
  · rw [if_pos hname, if_neg (not_not.2 (isParamName_iff.1 hname))]
    dsimp only
    by_cases hmem : name ∈ c.params.names
    · rw [if_pos (NameTable.contains_iff.2 hmem), if_neg (not_not.2 hmem)]
    · rw [if_neg fun h => hmem (NameTable.contains_iff.1 h), if_pos hmem]
  · rw [if_neg hname, if_pos fun h => hname (isParamName_iff.2 h)]

theorem bind_eq_invalid_iff {c : Compiled} {name : String} {value : Value} :
    c.bind name value = .error (.invalidExpression (.paramName name)) ↔ ¬IsIdentifier name := by
  rw [bind_eq]
  by_cases hname : IsIdentifier name
  · rw [if_neg (not_not.2 hname)]
    split <;> simp [hname]
  · simp [hname]

theorem bind_eq_unknown_iff {c : Compiled} {name : String} {value : Value} :
    c.bind name value = .error (.unknownParameter name) ↔
      IsIdentifier name ∧ name ∉ c.params.names := by
  rw [bind_eq]
  by_cases hname : IsIdentifier name
  · rw [if_neg (not_not.2 hname)]
    by_cases hmem : name ∈ c.params.names
    · simp [hmem]
    · simp [hmem, hname]
  · simp [hname]

theorem exists_bind_eq_ok_iff {c : Compiled} {name : String} {value : Value} :
    (∃ next, c.bind name value = .ok next) ↔ IsIdentifier name ∧ name ∈ c.params.names := by
  rw [bind_eq]
  by_cases hname : IsIdentifier name
  · rw [if_neg (not_not.2 hname)]
    by_cases hmem : name ∈ c.params.names
    · simp [hmem, hname]
    · simp [hmem]
  · simp [hname]

/-- The table after a binding. -/
def bound (table : NameTable (Option Value)) (binding : String × Value) :
    NameTable (Option Value) :=
  if binding.1 ∈ table.names then table.insert binding.1 (some binding.2) else table

theorem names_bound (table : NameTable (Option Value)) (binding : String × Value) :
    (bound table binding).names = table.names := by
  unfold bound
  split
  · next h => exact NameTable.names_insert_of_mem h _
  · rfl

theorem names_foldl_bound (table : NameTable (Option Value)) (bindings : List (String × Value)) :
    (bindings.foldl bound table).names = table.names := by
  induction bindings generalizing table with
  | nil => rfl
  | cons binding rest ih => rw [List.foldl_cons, ih, names_bound]

/-- After some bindings a parameter has what the last of them to it says. -/
theorem get?_foldl_bound {table : NameTable (Option Value)} {name : String}
    (h : name ∈ table.names) (bindings : List (String × Value)) :
    (bindings.foldl bound table).get? name =
      (bindings.reverse.lookup name).elim (table.get? name) fun value => some (some value) := by
  induction bindings using List.reverseRecOn with
  | nil => rfl
  | append_singleton bindings last ih =>
    rw [List.foldl_append, List.foldl_cons, List.foldl_nil, List.reverse_append,
      List.reverse_singleton, List.singleton_append]
    obtain ⟨other, value⟩ := last
    have hnames := names_foldl_bound table bindings
    by_cases heq : name = other
    · subst heq
      have hmem : name ∈ (bindings.foldl bound table).names := hnames ▸ h
      rw [bound, if_pos hmem, NameTable.get?_insert, if_pos rfl, List.lookup_cons_self]
      rfl
    · rw [List.lookup_cons, beq_eq_false_iff_ne.2 heq]
      dsimp only
      rw [← ih, bound]
      split
      · rw [NameTable.get?_insert, if_neg heq]
      · rfl

/-! ## Limits -/

/-- The page after a limit is set. -/
def lowered (page : Option Paging) (n : UInt64) : Option Paging :=
  let page := page.getD {}
  some { page with limit := some (page.limit.elim n (min · n)) }

theorem withLimit_eq (c : Compiled) (n : UInt64) :
    c.withLimit n = { c with select.paging := lowered c.select.paging n } := by
  unfold withLimit lowered
  dsimp only
  split
  · next h => rw [h, Option.elim_some]
  · next h => rw [h, Option.elim_none]

/-- The least of some numbers and one more. -/
theorem min?_append_singleton (l : List UInt64) (n : UInt64) :
    (l ++ [n]).min? = some (l.min?.elim n (min · n)) := by
  cases l with
  | nil => rfl
  | cons m rest => simp [List.min?, List.foldl_append]

theorem limit_foldl_lowered (page : Option Paging) (limits : List UInt64) :
    (limits.foldl lowered page).bind (·.limit) =
      ((page.bind (·.limit)).toList ++ limits).min? := by
  induction limits using List.reverseRecOn with
  | nil =>
    rw [List.foldl_nil, List.append_nil]
    cases page.bind (·.limit) <;> rfl
  | append_singleton limits n ih =>
    rw [List.foldl_append, List.foldl_cons, List.foldl_nil, ← List.append_assoc,
      min?_append_singleton, ← ih]
    cases limits.foldl lowered page <;> rfl

theorem offset_foldl_lowered (page : Option Paging) (limits : List UInt64) :
    (limits.foldl lowered page).bind (·.offset) = page.bind (·.offset) := by
  induction limits generalizing page with
  | nil => rfl
  | cons n rest ih =>
    rw [List.foldl_cons, ih]
    cases page <;> rfl

/-! ## Runs -/

/-- A step of either kind, when all parameters have names that can be bound. -/
theorem step_eq {c : Compiled} (h : ∀ name ∈ c.params.names, IsIdentifier name) (s : Step) :
    c.step s =
      ⟨{ c.select with paging := (Step.limits [s]).foldl lowered c.select.paging },
        (Step.bindings [s]).foldl bound c.params⟩ := by
  cases s with
  | limit n => exact c.withLimit_eq n
  | bind name value =>
    show (match c.bind name value with | .ok next => next | .error _ => c) =
      ⟨c.select, bound c.params (name, value)⟩
    rw [bind_eq, bound]
    by_cases hmem : name ∈ c.params.names
    · rw [if_neg (not_not.2 (h name hmem)), if_neg (not_not.2 hmem), if_pos hmem]
    · rw [if_pos hmem, if_neg hmem]
      by_cases hname : IsIdentifier name
      · rw [if_neg (not_not.2 hname)]
      · rw [if_pos hname]

/-- A run: what its bindings do to the table, and what its limits do to the page. -/
theorem run_eq {c : Compiled} (h : ∀ name ∈ c.params.names, IsIdentifier name)
    (steps : List Step) :
    c.run steps =
      ⟨{ c.select with paging := (Step.limits steps).foldl lowered c.select.paging },
        (Step.bindings steps).foldl bound c.params⟩ := by
  induction steps generalizing c with
  | nil => rfl
  | cons s rest ih =>
    have hnames : (c.step s).params.names = c.params.names := by
      rw [step_eq h s]
      exact names_foldl_bound _ _
    have hrun : c.run (s :: rest) = (c.step s).run rest := rfl
    rw [hrun, ih (hnames ▸ h), step_eq h s]
    cases s <;> rfl

end Compiled

/-! ## The text -/

namespace Sql

theorem render_append (d : Dialect) (xs ys : List Token) :
    render d (xs ++ ys) = render d xs ++ render d ys := by
  simp [render, String.join_append]

theorem render_cons (d : Dialect) (t : Token) (ts : List Token) :
    render d (t :: ts) = t.text d ++ render d ts := by
  simp [render]

namespace Select

/-- The statement up to the order of its rows. -/
def unordered (s : Select) : Select :=
  { s with orderBy := [], paging := none }

/-- What rows are ordered by: the keys, or a placeholder where there are none. -/
def orderKeys (s : Select) : List Token :=
  if s.orderBy.isEmpty then [.leftParen, .keyword .SELECT, .space, .keyword .NULL, .rightParen]
  else commaSeparated (s.orderBy.map OrderItem.tokens)

theorem orderTokens_of_paging {s : Select} (h : s.paging.isSome) :
    s.orderTokens .tsql = clause .ORDER_BY s.orderKeys := by
  have hneeded : (Dialect.tsql.pagingNeedsOrder && s.paging.isSome) = true := h
  unfold orderTokens orderKeys
  cases s.orderBy.isEmpty with
  | true => simp [hneeded]
  | false => simp

/-- A page follows an order, and both follow all else. -/
theorem tokens_of_paging {s : Select} {page : Paging} (h : s.paging = some page) :
    s.tokens .tsql =
      s.unordered.tokens .tsql ++ clause .ORDER_BY s.orderKeys
        ++ .newline :: offsetFetch page.limit page.offset := by
  have horder := orderTokens_of_paging (s := s) (by rw [h]; rfl)
  unfold tokens
  rw [horder, h]
  simp [unordered, orderTokens, Dialect.tsql]

theorem render_orderBy (ts : List Token) :
    render .tsql (clause .ORDER_BY ts) = "\nORDER BY " ++ render .tsql ts := by
  have htext : "\n" ++ ("ORDER BY" ++ " ") = "\nORDER BY " := by decide
  rw [clause, List.cons_append, List.cons_append, List.cons_append, render_cons, render_cons,
    render_cons, ← htext, String.append_assoc, String.append_assoc]
  rfl

theorem render_offset (ts : List Token) :
    render .tsql (.newline :: .keyword .OFFSET :: .space :: ts) =
      "\nOFFSET " ++ render .tsql ts := by
  have htext : "\n" ++ ("OFFSET" ++ " ") = "\nOFFSET " := by decide
  rw [render_cons, render_cons, render_cons, ← htext, String.append_assoc, String.append_assoc]
  rfl

/-- In the text of a statement with a page, `OFFSET` follows what the rows are ordered by. -/
theorem sql_of_paging {s : Select} (h : s.paging.isSome) :
    ∃ rest, s.sql .tsql = s.unordered.sql .tsql ++ "\nORDER BY " ++ render .tsql s.orderKeys ++
      "\nOFFSET " ++ rest := by
  obtain ⟨page, hpage⟩ := Option.isSome_iff_exists.1 h
  obtain ⟨rest, hrest⟩ : ∃ rest, offsetFetch page.limit page.offset =
      .keyword .OFFSET :: .space :: rest := ⟨_, rfl⟩
  refine ⟨render .tsql rest, ?_⟩
  unfold sql
  rw [tokens_of_paging hpage, hrest, render_append, render_append, render_orderBy, render_offset]
  simp only [String.append_assoc]

end Select

end Sql

/-! ## The arguments -/

theorem NameTable.get?_eq_some {α : Type} {table : NameTable α} {name : String} {value : α} :
    table.get? name = some value ↔ (name, value) ∈ table.entries := by
  unfold get?
  rw [List.lookup_eq_some_iff]
  constructor
  · rintro ⟨before, after, hentries, -⟩
    rw [hentries]
    simp
  · intro hmem
    obtain ⟨before, after, hentries⟩ := List.append_of_mem hmem
    refine ⟨before, after, hentries, ?_⟩
    -- names ascend, so no entry before this one has its name
    intro entry hentry
    have hascending := table.ascending
    rw [hentries, List.pairwise_append] at hascending
    have hlt : entry.1 < name := hascending.2.2 entry hentry (name, value) (by simp)
    rw [bne_iff_ne]
    exact fun heq => String.lt_irrefl _ (heq ▸ hlt)

namespace Compiled

theorem mem_unbound {c : Compiled} {name : String} :
    name ∈ c.unbound ↔ c.params.get? name = some none := by
  unfold unbound
  rw [NameTable.get?_eq_some, List.mem_map]
  constructor
  · rintro ⟨⟨name, value⟩, hentry, rfl⟩
    rw [List.mem_filter, Option.isNone_iff_eq_none] at hentry
    obtain ⟨hentry, rfl⟩ := hentry
    exact hentry
  · intro hentry
    exact ⟨(name, none), List.mem_filter.2 ⟨hentry, rfl⟩, rfl⟩

theorem ascending_unbound (c : Compiled) : c.unbound.Pairwise (· < ·) := by
  unfold unbound
  rw [List.pairwise_map]
  exact c.params.ascending.filter _

/-- The arguments are read entry by entry, and the first that has no value is the error. -/
theorem mapM_boundArg (entries : List (String × Option Value)) :
    entries.mapM boundArg =
      match (entries.filter (·.2.isNone)).map (·.1) with
      | [] => .ok (entries.filterMap fun entry => entry.2.map (entry.1, ·))
      | first :: _ => .error (.unboundParameter first) := by
  induction entries with
  | nil => rfl
  | cons entry rest ih =>
    obtain ⟨name, value⟩ := entry
    rw [List.mapM_cons, ih]
    cases value with
    | none => rfl
    | some value =>
      rw [List.filter_cons_of_neg (by simp), List.filterMap_cons]
      cases (rest.filter (·.2.isNone)).map (·.1) <;> rfl

theorem args_of_unbound {c : Compiled} {first : String} {rest : List String}
    (h : c.unbound = first :: rest) : c.args = .error (.unboundParameter first) := by
  unfold unbound at h
  rw [args, mapM_boundArg, h]

theorem exists_args_iff {c : Compiled} : (∃ args, c.args = .ok args) ↔ c.unbound = [] := by
  cases h : c.unbound with
  | cons first rest => simp [args_of_unbound h]
  | nil =>
    unfold unbound at h
    rw [args, mapM_boundArg, h]
    simp

/-- The arguments are all parameters, each with its value. -/
theorem args_spec {c : Compiled} {args : List (String × Value)} (h : c.args = .ok args) :
    args.map (·.1) = c.params.names ∧
      ∀ arg ∈ args, c.params.get? arg.1 = some (some arg.2) := by
  have hentries := args_eq_ok.1 h
  constructor
  · rw [NameTable.names, hentries, List.map_map]
    rfl
  · intro arg harg
    rw [NameTable.get?_eq_some, hentries]
    exact List.mem_map_of_mem harg

/-! ## What a run comes to -/

/-- What steps make of a compiled statement. -/
structure Prepared (initial : Compiled) (steps : List Step) (final : Compiled) : Prop where
  /-- The parameters stay the same. -/
  names : final.params.names = initial.params.names
  /-- A parameter has what was bound to it last, or what it had in the beginning. -/
  entries : ∀ name ∈ initial.params.names, final.params.get? name =
    (Step.lastValue? name steps).elim (initial.params.get? name) fun value => some (some value)
  /-- A name that is no identifier is refused. -/
  bindInvalid : ∀ name value,
    final.bind name value = .error (.invalidExpression (.paramName name)) ↔ ¬IsIdentifier name
  /-- A name that is no parameter is refused. -/
  bindUnknown : ∀ name value,
    final.bind name value = .error (.unknownParameter name) ↔
      IsIdentifier name ∧ name ∉ initial.params.names
  /-- All other names can be bound, so that what was bound last was bound with success. -/
  bindSucceeds : ∀ name value,
    (∃ next, final.bind name value = .ok next) ↔ name ∈ initial.params.names
  /-- What is refused changes nothing. -/
  bindRefused : ∀ name value e, final.bind name value = .error e →
    final.step (.bind name value) = final
  /-- Of the statement only the page can change. -/
  select : final.select = { initial.select with paging := final.select.paging }
  /-- The limit is the least of the first one and of those that were set. -/
  limit : final.select.paging.bind (·.limit) =
    ((initial.select.paging.bind (·.limit)).toList ++ Step.limits steps).min?
  /-- The offset stays the same. -/
  offset : final.select.paging.bind (·.offset) = initial.select.paging.bind (·.offset)
  /-- Without limits the statement stays the same. -/
  unlimited : Step.limits steps = [] → final.select = initial.select
  /-- A binding leaves the text as it is. -/
  text : ∀ name value, (final.step (.bind name value)).sql = final.sql
  /-- Only the order among bindings and the order among limits count. -/
  order : ∀ steps', Step.bindings steps' = Step.bindings steps →
    Step.limits steps' = Step.limits steps → initial.run steps' = final
  /-- A page stands in the text after what the rows are ordered by. -/
  ordered : final.select.paging.isSome → ∃ rest, final.sql =
    final.select.unordered.sql .tsql ++ "\nORDER BY " ++ render .tsql final.select.orderKeys
      ++ "\nOFFSET " ++ rest
  /-- The parameters without a value. -/
  unbound : ∀ name, name ∈ final.unbound ↔ final.params.get? name = some none
  /-- They are listed by ascending name. -/
  unboundAscending : final.unbound.Pairwise (· < ·)
  /-- There are arguments as soon as every parameter has a value. -/
  args : (∃ args, final.args = .ok args) ↔ final.unbound = []
  /-- The arguments are all parameters with their values, by ascending name. -/
  argsNames : ∀ args, final.args = .ok args →
    args.map (·.1) = initial.params.names ∧ (args.map (·.1)).Pairwise (· < ·) ∧
      ∀ arg ∈ args, final.params.get? arg.1 = some (some arg.2)
  /-- Otherwise the first parameter without a value is named. -/
  argsMissing : ∀ first rest, final.unbound = first :: rest →
    final.args = .error (.unboundParameter first)

end Compiled

/-- What any sequence of bindings and limits makes of a compiled statement. -/
theorem prepared_of_compile (query : Query) (params : Params) (c : Compiled)
    (h : compile query params = .ok c) (steps : List Compiled.Step) :
    c.Prepared steps (c.run steps) := by
  have hidentifier : ∀ name ∈ c.params.names, IsIdentifier name := by
    intro name hname
    exact isIdentifier_of_compile h ((mem_names_of_compile h name).1 hname)
  have hrun := Compiled.run_eq hidentifier steps
  have hnames : (c.run steps).params.names = c.params.names := by
    rw [hrun]
    exact Compiled.names_foldl_bound _ _
  refine {
    names := hnames
    entries := ?_
    bindInvalid := fun _ _ => Compiled.bind_eq_invalid_iff
    bindUnknown := ?_
    bindSucceeds := ?_
    bindRefused := ?_
    select := ?_
    limit := ?_
    offset := ?_
    unlimited := ?_
    text := ?_
    order := ?_
    ordered := Sql.Select.sql_of_paging
    unbound := fun _ => Compiled.mem_unbound
    unboundAscending := Compiled.ascending_unbound _
    args := Compiled.exists_args_iff
    argsNames := ?_
    argsMissing := fun _ _ => Compiled.args_of_unbound }
  · intro name hname
    rw [hrun]
    exact Compiled.get?_foldl_bound hname _
  · intro name value
    rw [Compiled.bind_eq_unknown_iff, hnames]
  · intro name value
    rw [Compiled.exists_bind_eq_ok_iff, hnames]
    exact and_iff_right_of_imp (hidentifier name)
  · intro name value e he
    simp only [Compiled.step, he]
  · rw [hrun]
  · rw [hrun]
    exact Compiled.limit_foldl_lowered _ _
  · rw [hrun]
    exact Compiled.offset_foldl_lowered _ _
  · intro hnone
    rw [hrun, hnone]
    rfl
  · intro name value
    rw [Compiled.step_eq (hnames ▸ hidentifier)]
    rfl
  · intro steps' hbindings hlimits
    rw [hrun, Compiled.run_eq hidentifier steps', hbindings, hlimits]
  · intro args hargs
    obtain ⟨hnames', hvalues⟩ := Compiled.args_spec hargs
    rw [hnames', hnames]
    exact ⟨rfl, c.params.ascending_names, hvalues⟩

/-- One parameter is bound twice and one was bound when the statement was compiled; two bindings are
refused, and the least of three limits is the second. -/
theorem prepared_of_compile_mixed_steps :
    let query : Query := .relation (.selection (.table ⟨⟨none, "t"⟩, []⟩) {
      predicates := [.apply .equals [.param "a" .int64, .param "b" .int64]]
      limit := some ⟨5, 2⟩ })
    let steps : List Compiled.Step := [.bind "a" (.int 1), .limit 10, .bind "c" .null, .limit 3,
      .bind "a b" .null, .bind "a" (.int 7)]
    ∃ c, compile query (.ofList [("b", .bool true)]) = .ok c ∧
      c.Prepared steps (c.run steps) ∧
      (c.run steps).args = .ok [("a", .int 7), ("b", .bool true)] ∧
      (c.run steps).select.paging = some ⟨some 3, some 2⟩ := by
  intro query steps
  have hc : ∃ c, compile query (.ofList [("b", .bool true)]) = .ok c ∧
      (c.run steps).args = .ok [("a", .int 7), ("b", .bool true)] ∧
      (c.run steps).select.paging = some ⟨some 3, some 2⟩ :=
    ⟨_, rfl, rfl, rfl⟩
  obtain ⟨c, hc, hargs, hpaging⟩ := hc
  exact ⟨c, hc, prepared_of_compile query _ c hc steps, hargs, hpaging⟩

/-! ## Values -/

namespace NameTable

variable {α β : Type}

/-- Where an entry is placed is a matter of names only. -/
theorem map_fst_place_congr (name : String) (value : α) (value' : β)
    {entries : List (String × α)} {entries' : List (String × β)}
    (h : entries.map (·.1) = entries'.map (·.1)) :
    (place name value entries).map (·.1) = (place name value' entries').map (·.1) := by
  induction entries generalizing entries' with
  | nil =>
    rw [List.map_nil, eq_comm, List.map_eq_nil_iff] at h
    rw [h]
    rfl
  | cons entry rest ih =>
    cases entries' with
    | nil => cases h
    | cons entry' rest' =>
      rw [List.map_cons, List.map_cons, List.cons.injEq] at h
      obtain ⟨hentry, hrest⟩ := h
      unfold place
      rw [← hentry]
      split
      · simp [hentry, hrest]
      · split
        · simp [hrest]
        · simp [hentry, ih hrest]

theorem names_insert_congr (name : String) (value : α) (value' : β) {table : NameTable α}
    {table' : NameTable β} (h : table.names = table'.names) :
    (table.insert name value).names = (table'.insert name value').names :=
  map_fst_place_congr name value value' h

end NameTable

/-- Which parameters are recorded does not depend on the values that are known. -/
theorem names_recordParams (params params' : Params) (noted : List String)
    {table table' : NameTable (Option Value)} (h : table.names = table'.names) :
    (recordParams params table noted).names = (recordParams params' table' noted).names := by
  unfold recordParams
  induction noted generalizing table table' with
  | nil => exact h
  | cons name rest ih =>
    rw [List.foldl_cons, List.foldl_cons]
    exact ih (NameTable.names_insert_congr name _ _ h)

/-- Values of parameters have no influence on a statement. With whatever values a query is compiled,
it is refused for the same reason or gives the same statement with the same text, and the same
parameters; these have the values that are known for them, and nothing else differs. -/
theorem statement_independent_of_values (query : Query) (params params' : Params) :
    (∃ e, compile query params = .error e ∧ compile query params' = .error e) ∨
    (∃ c c', compile query params = .ok c ∧ compile query params' = .ok c' ∧
      c'.select = c.select ∧ c'.sql = c.sql ∧ c'.params.names = c.params.names ∧
      ∀ name ∈ c.params.names, c.params.get? name = some (params.get? name) ∧
        c'.params.get? name = some (params'.get? name)) := by
  cases hresult : (Statement.ofQuery (query.normalize .base)).result with
  | error e => exact .inl ⟨e, compile_eq_error.2 hresult, compile_eq_error.2 hresult⟩
  | ok s =>
    set noted := (Statement.ofQuery (query.normalize .base)).noted with hnoted
    have hcompile : ∀ p, compile query p = .ok ⟨s, recordParams p .empty noted⟩ :=
      fun p => compile_eq_ok.2 ⟨hresult, rfl⟩
    refine .inr ⟨_, _, hcompile params, hcompile params', rfl, rfl, ?_, ?_⟩
    · exact names_recordParams params' params noted rfl
    · intro name hname
      have hmem : name ∈ noted := by
        rw [NameTable.mem_names, get?_recordParams] at hname
        by_contra habsent
        simp [habsent] at hname
      rw [get?_recordParams, get?_recordParams, if_pos hmem, if_pos hmem]
      exact ⟨rfl, rfl⟩

end TransactSql
