import Mathlib.Data.List.Basic
import Mathlib.Tactic.Common
import TransactSql.Config.Environment

/-!
# The grammar of texts that name variables

`Environment.expand` reads a text from left to right with one character of lookahead. The texts
themselves are made of segments: characters, names of variables with or without braces after a
dollar sign, and dollar signs without a name. `Segmented` says that a text is put together from
segments, where a name without braces is as long as it can be.

Expanding such a text replaces each segment on its own (`expand_segmented`): what stands for a
name is the value of its variable and is not read again, and the first name without a variable is
the one that is reported.
-/

namespace TransactSql

namespace Environment

/-! ## Segments -/

/-- A piece of a text in which variables are named. -/
inductive Segment where
  /-- A character that belongs to no name. -/
  | character (c : Char)
  /-- A name in braces after a dollar sign. -/
  | braced (name : List Char)
  /-- A name after a dollar sign. -/
  | bare (name : List Char)
  /-- A dollar sign without a name. -/
  | dollar
deriving DecidableEq, Repr

namespace Segment

/-- A segment as it is written. -/
def text : Segment → List Char
  | character c => [c]
  | braced name => '$' :: '\x7b' :: (name ++ ['\x7d'])
  | bare name => '$' :: name
  | dollar => ['$']

/-- The variable that a segment names. -/
def name? : Segment → Option String
  | braced name | bare name => some (String.ofList name)
  | character _ | dollar => none

/-- What a segment stands for: the value of its variable, or itself. -/
def replaced (env : Environment) : Segment → List Char
  | braced name | bare name => ((env.get? (String.ofList name)).getD "").toList
  | character c => [c]
  | dollar => ['$']

/-- Whether a segment can be written in front of a text. A name without braces ends where no
character can go on with it, and what follows a dollar sign alone starts no name. -/
def Fits (rest : List Char) : Segment → Prop
  | character c => c ≠ '$'
  | braced name => name ≠ [] ∧ '\x7d' ∉ name
  | bare name =>
    name ≠ [] ∧ (∀ c ∈ name, isNameCharacter c) ∧ ∀ c ∈ rest.head?, isNameCharacter c = false
  | dollar => ∀ c ∈ rest.head?, isNameCharacter c = false ∧ c ≠ '\x7b'

end Segment

/-- A text that is made of segments. -/
inductive Segmented : List Char → List Segment → Prop
  | nil : Segmented [] []
  | cons {s : Segment} {segments : List Segment} {rest : List Char} (hs : s.Fits rest)
      (hrest : Segmented rest segments) : Segmented (s.text ++ rest) (s :: segments)

/-! ## Reading a name -/

theorem isNameCharacter_brace : isNameCharacter '\x7b' = false := by
  decide +kernel

/-- A run of characters of a class ends where the next character is not of that class. -/
theorem span_append {p : Char → Bool} {name rest : List Char} (hname : ∀ c ∈ name, p c)
    (hrest : ∀ c ∈ rest.head?, p c = false) :
    (name ++ rest).takeWhile p = name ∧ (name ++ rest).dropWhile p = rest := by
  rw [List.takeWhile_append_of_pos hname, List.dropWhile_append_of_pos hname]
  cases rest with
  | nil => simp
  | cons c rest => simp [hrest c rfl]

theorem takeName_braced {name : List Char} (h : '\x7d' ∉ name) (rest : List Char) :
    takeName ('\x7b' :: (name ++ '\x7d' :: rest)) = (name, rest) := by
  have hname : ∀ c ∈ name, (c != '\x7d') = true := by
    intro c hc
    rw [bne_iff_ne]
    rintro rfl
    exact h hc
  obtain ⟨htake, hdrop⟩ := @span_append _ name ('\x7d' :: rest) hname (by simp)
  rw [takeName, if_pos rfl, htake, hdrop, List.tail_cons]

theorem takeName_bare {name rest : List Char} (hne : name ≠ [])
    (hname : ∀ c ∈ name, isNameCharacter c)
    (hrest : ∀ c ∈ rest.head?, isNameCharacter c = false) :
    takeName (name ++ rest) = (name, rest) := by
  obtain ⟨htake, hdrop⟩ := span_append hname hrest
  cases name with
  | nil => exact absurd rfl hne
  | cons c name =>
    have hc : c ≠ '\x7b' := by
      rintro rfl
      exact Bool.false_ne_true (isNameCharacter_brace.symm.trans (hname _ (by simp)))
    rw [List.cons_append] at htake hdrop ⊢
    rw [takeName, if_neg hc, htake, hdrop]

theorem takeName_dollar {rest : List Char}
    (h : ∀ c ∈ rest.head?, isNameCharacter c = false ∧ c ≠ '\x7b') :
    takeName rest = ([], rest) := by
  cases rest with
  | nil => rfl
  | cons c rest =>
    obtain ⟨hc, hbrace⟩ := h c rfl
    obtain ⟨htake, hdrop⟩ :=
      @span_append isNameCharacter [] (c :: rest) (by simp) (by simpa using hc)
    rw [List.nil_append] at htake hdrop
    rw [takeName, if_neg hbrace, htake, hdrop]

/-! ## Expanding one segment -/

variable (env : Environment)

/-- A name after a dollar sign, in front of the rest of a text. -/
theorem expandChars_name {tail name rest : List Char} (htail : takeName tail = (name, rest))
    (hne : name ≠ []) :
    env.expandChars ('$' :: tail) =
      match env.get? (String.ofList name) with
      | none => .error (.missingVariable (String.ofList name))
      | some value => (env.expandChars rest).map (value.toList ++ ·) := by
  rw [expandChars, if_pos rfl, htail]
  cases name with
  | nil => exact absurd rfl hne
  | cons c name => rfl

/-- What follows the dollar sign of a segment with a name is read as that name. -/
theorem exists_takeName {s : Segment} {rest : List Char} {name : String} (h : s.Fits rest)
    (hname : s.name? = some name) :
    ∃ tail chars, s.text ++ rest = '$' :: tail ∧ takeName tail = (chars, rest) ∧ chars ≠ [] ∧
      String.ofList chars = name ∧ s.replaced env = ((env.get? name).getD "").toList := by
  cases s with
  | character c => cases hname
  | dollar => cases hname
  | braced chars =>
    cases hname
    obtain ⟨hne, hclosing⟩ := h
    refine ⟨_, chars, by simp [Segment.text], takeName_braced hclosing rest, hne, rfl, rfl⟩
  | bare chars =>
    cases hname
    obtain ⟨hne, hchars, hrest⟩ := h
    exact ⟨_, chars, rfl, takeName_bare hne hchars hrest, hne, rfl, rfl⟩

/-- A segment whose variable, if it names one, is set: it is replaced, and the rest of the text is
expanded as if nothing came before it. -/
theorem expandChars_of_set {s : Segment} {rest : List Char} (h : s.Fits rest)
    (hset : ∀ name ∈ s.name?, (env.get? name).isSome) :
    env.expandChars (s.text ++ rest) = (env.expandChars rest).map (s.replaced env ++ ·) := by
  cases hname : s.name? with
  | some name =>
    obtain ⟨tail, chars, htext, htail, hne, rfl, hreplaced⟩ := exists_takeName env h hname
    obtain ⟨value, hvalue⟩ := Option.isSome_iff_exists.1 (hset _ hname)
    rw [htext, expandChars_name env htail hne, hreplaced, hvalue]
    rfl
  | none =>
    cases s with
    | braced chars => cases hname
    | bare chars => cases hname
    | character c =>
      show env.expandChars (c :: rest) = _
      rw [expandChars, if_neg h]
      rfl
    | dollar =>
      show env.expandChars ('$' :: rest) = _
      rw [expandChars, if_pos rfl, takeName_dollar h]
      rfl

/-- A segment whose variable is not set. -/
theorem expandChars_of_missing {s : Segment} {rest : List Char} {name : String} (h : s.Fits rest)
    (hname : s.name? = some name) (hmissing : env.get? name = none) :
    env.expandChars (s.text ++ rest) = .error (.missingVariable name) := by
  obtain ⟨tail, chars, htext, htail, hne, rfl, -⟩ := exists_takeName env h hname
  rw [htext, expandChars_name env htail hne, hmissing]

/-! ## Expanding all segments -/

/-- The first name of a list that is not set. -/
def firstMissing? (env : Environment) (names : List String) : Option String :=
  names.find? fun name => (env.get? name).isNone

/-- A text is expanded segment by segment, until a name is not set. -/
theorem expandChars_segmented {cs : List Char} {segments : List Segment}
    (h : Segmented cs segments) :
    env.expandChars cs =
      match env.firstMissing? (segments.filterMap Segment.name?) with
      | some name => .error (.missingVariable name)
      | none => .ok (segments.flatMap (Segment.replaced env)) := by
  induction h with
  | nil => rw [expandChars]; rfl
  | @cons s segments rest hs _ ih =>
    by_cases hset : ∀ name ∈ s.name?, (env.get? name).isSome
    · -- the segment does not fail, so the first failure is that of the rest
      have hfirst : env.firstMissing? ((s :: segments).filterMap Segment.name?) =
          env.firstMissing? (segments.filterMap Segment.name?) := by
        cases hname : s.name? with
        | none => rw [List.filterMap_cons_none hname]
        | some name =>
          obtain ⟨value, hvalue⟩ := Option.isSome_iff_exists.1 (hset name hname)
          rw [List.filterMap_cons_some hname]
          exact List.find?_cons_of_neg (by simp [hvalue])
      rw [expandChars_of_set env hs hset, ih, hfirst]
      cases env.firstMissing? (segments.filterMap Segment.name?) with
      | some name => rfl
      | none => rfl
    · obtain ⟨name, hname, hmissing⟩ : ∃ name, s.name? = some name ∧ env.get? name = none := by
        simpa using hset
      have hfirst : env.firstMissing? ((s :: segments).filterMap Segment.name?) = some name := by
        rw [List.filterMap_cons_some hname]
        exact List.find?_cons_of_pos (by simp [hmissing])
      rw [expandChars_of_missing env hs hname hmissing, hfirst]

/-- A text that is made of segments. Where every variable that it names is set, each segment is
replaced: a name by the value, which is not read again, and all else by itself. It fails where a
variable is not set, and only there, and the error names the first of them. -/
theorem expand_segmented (env : Environment) (text : String) (segments : List Segment)
    (h : Segmented text.toList segments) :
    ((∀ name ∈ segments.filterMap Segment.name?, (env.get? name).isSome) →
      env.expand text = .ok (String.ofList (segments.flatMap (Segment.replaced env)))) ∧
    ((∃ e, env.expand text = .error e) ↔
      ∃ name ∈ segments.filterMap Segment.name?, env.get? name = none) ∧
    (∀ e, env.expand text = .error e →
      ∃ name, env.firstMissing? (segments.filterMap Segment.name?) = some name ∧
        e = .missingVariable name) := by
  have hexpand := expandChars_segmented env h
  unfold expand
  rw [hexpand]
  cases hfirst : env.firstMissing? (segments.filterMap Segment.name?) with
  | none =>
    have hset : ∀ name ∈ segments.filterMap Segment.name?, (env.get? name).isSome := by
      intro name hmem
      rw [Option.isSome_iff_ne_none]
      simpa using List.find?_eq_none.1 hfirst name hmem
    refine ⟨fun _ => rfl, ⟨?_, ?_⟩, ?_⟩
    · rintro ⟨e, he⟩
      cases he
    · rintro ⟨name, hmem, hname⟩
      simpa [hname] using hset name hmem
    · intro e he
      cases he
  | some name =>
    have hmem : name ∈ segments.filterMap Segment.name? := List.mem_of_find?_eq_some hfirst
    have hmissing : env.get? name = none := by simpa using List.find?_some hfirst
    refine ⟨?_, ⟨fun _ => ⟨name, hmem, hmissing⟩, fun _ => ⟨_, rfl⟩⟩, ?_⟩
    · intro hset
      simpa [hmissing] using hset name hmem
    · intro e he
      cases he
      exact ⟨name, rfl, rfl⟩

/-- A dollar sign before a name, names that follow each other, a value with a dollar sign in it, and
a dollar sign at the end; in the second environment the name in braces is not set. -/
theorem expand_segmented_adjacent_names :
    let text := "$$A$\x7bb c\x7d-$A$"
    let segments : List Segment :=
      [.dollar, .bare ['A'], .braced ['b', ' ', 'c'], .character '-', .bare ['A'], .dollar]
    let env : Environment := .ofList [("A", "$B"), ("b c", "é")]
    let env' : Environment := .ofList [("A", "$B")]
    Segmented text.toList segments ∧ env.expand text = .ok "$$Bé-$B$" ∧
      env'.expand text = .error (.missingVariable "b c") := by
  intro text segments env env'
  have hA : isNameCharacter 'A' = true := by decide +kernel
  have hdollar : isNameCharacter '$' = false := by decide +kernel
  have htext : text.toList = segments.flatMap Segment.text := by decide +kernel
  have hsegmented : Segmented text.toList segments := by
    rw [htext]
    refine .cons ?_ (.cons ?_ (.cons ?_ (.cons ?_ (.cons ?_ (.cons ?_ .nil)))))
    all_goals simp [Segment.Fits, Segment.text, hA, hdollar]
  have hvalue : segments.flatMap (Segment.replaced env) = "$$Bé-$B$".toList := by decide +kernel
  have hall : ∀ name ∈ segments.filterMap Segment.name?, (env.get? name).isSome := by
    decide +kernel
  obtain ⟨e, he⟩ := (expand_segmented env' text segments hsegmented).2.1.2
    ⟨"b c", by decide +kernel, by decide +kernel⟩
  obtain ⟨name, hname, rfl⟩ := (expand_segmented env' text segments hsegmented).2.2 e he
  have hfirst : env'.firstMissing? (segments.filterMap Segment.name?) = some "b c" := by
    decide +kernel
  cases hfirst.symm.trans hname
  refine ⟨hsegmented, ?_, he⟩
  rw [(expand_segmented env text segments hsegmented).1 hall, hvalue, String.ofList_toList]

end Environment

end TransactSql
