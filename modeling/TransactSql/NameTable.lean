/-!
# Tables of named values

A table from names to values, listed by ascending name. Names are compared code point by code
point. The order is part of the type, so two tables with the same entries are the same table in
whatever order the entries were made.
-/

namespace TransactSql

/-- Values under distinct names, in ascending order of the names. -/
structure NameTable (α : Type) where
  entries : List (String × α)
  ascending : entries.Pairwise fun a b => a.1 < b.1

namespace NameTable

variable {α : Type}

/-- The table without entries. -/
def empty : NameTable α :=
  ⟨[], List.Pairwise.nil⟩

instance : Inhabited (NameTable α) :=
  ⟨empty⟩

/-- Puts an entry in its place in a list, over an entry of the same name. -/
def place (name : String) (value : α) : List (String × α) → List (String × α)
  | [] => [(name, value)]
  | entry :: rest =>
    if name < entry.1 then (name, value) :: entry :: rest
    else if name = entry.1 then (name, value) :: rest
    else entry :: place name value rest

/-- A placed entry adds its own name only. -/
theorem name_of_mem_place {name : String} {value : α} {entries : List (String × α)}
    {e : String × α} (h : e ∈ place name value entries) : e.1 = name ∨ e ∈ entries := by
  induction entries with
  | nil => simp_all [place]
  | cons entry rest ih =>
    unfold place at h
    split at h
    · simp only [List.mem_cons] at h ⊢
      rcases h with rfl | h | h <;> simp_all
    · split at h
      · simp only [List.mem_cons] at h ⊢
        rcases h with rfl | h <;> simp_all
      · simp only [List.mem_cons] at h ⊢
        rcases h with rfl | h
        · simp
        · rcases ih h with h | h <;> simp [h]

/-- Placing keeps the order. -/
theorem ascending_place (name : String) (value : α) {entries : List (String × α)}
    (h : entries.Pairwise fun a b => a.1 < b.1) :
    (place name value entries).Pairwise fun a b => a.1 < b.1 := by
  induction entries with
  | nil => simp [place]
  | cons entry rest ih =>
    obtain ⟨hentry, hrest⟩ := List.pairwise_cons.1 h
    unfold place
    split
    · next hlt =>
      refine List.pairwise_cons.2 ⟨?_, h⟩
      intro e he
      rcases List.mem_cons.1 he with rfl | he
      · exact hlt
      · exact String.lt_trans hlt (hentry e he)
    · split
      · next heq =>
        refine List.pairwise_cons.2 ⟨fun e he => ?_, hrest⟩
        simpa [heq] using hentry e he
      · next hnlt hne =>
        refine List.pairwise_cons.2 ⟨fun e he => ?_, ih hrest⟩
        rcases name_of_mem_place he with hname | he
        · have hle : entry.1 ≤ name := String.not_lt.1 hnlt
          rw [hname]
          rcases Decidable.em (entry.1 < name) with hlt | hnlt'
          · exact hlt
          · exact absurd (String.le_antisymm (String.not_lt.1 hnlt') hle) hne
        · exact hentry e he

/-- The table with a value under a name, over the one that it had. -/
def insert (table : NameTable α) (name : String) (value : α) : NameTable α :=
  ⟨place name value table.entries, ascending_place name value table.ascending⟩

/-- The value under a name. -/
def get? (table : NameTable α) (name : String) : Option α :=
  table.entries.lookup name

/-- Whether a name has an entry. -/
def contains (table : NameTable α) (name : String) : Bool :=
  (table.get? name).isSome

/-- The names, ascending. -/
def names (table : NameTable α) : List String :=
  table.entries.map (·.1)

/-- The table of a list of entries; of two under one name the later one stays. -/
def ofList (entries : List (String × α)) : NameTable α :=
  entries.foldl (fun table entry => table.insert entry.1 entry.2) empty

@[simp]
theorem get?_empty (name : String) : (empty : NameTable α).get? name = none := rfl

/-- Looking up after placing: the placed name has the placed value, all others are as before. -/
theorem lookup_place (name : String) (value : α) (entries : List (String × α)) (other : String) :
    (place name value entries).lookup other =
      if other = name then some value else entries.lookup other := by
  induction entries with
  | nil =>
    rcases Decidable.em (other = name) with rfl | h
    · simp [place]
    · simp [place, List.lookup_cons, h, beq_eq_false_iff_ne.2 h]
  | cons entry rest ih =>
    obtain ⟨key, old⟩ := entry
    unfold place
    split
    · rcases Decidable.em (other = name) with rfl | h
      · simp
      · simp [List.lookup_cons, h, beq_eq_false_iff_ne.2 h]
    · split
      · next heq =>
        obtain rfl : name = key := heq
        rcases Decidable.em (other = name) with rfl | h
        · simp
        · simp [List.lookup_cons, h, beq_eq_false_iff_ne.2 h]
      · next hne =>
        have hne' : ¬key = name := fun e => hne e.symm
        rcases Decidable.em (other = key) with rfl | h
        · simp [hne']
        · simp [List.lookup_cons, beq_eq_false_iff_ne.2 h, ih]

/-- Looking up after inserting. -/
theorem get?_insert (table : NameTable α) (name : String) (value : α) (other : String) :
    (table.insert name value).get? other = if other = name then some value else table.get? other :=
  lookup_place name value table.entries other

end NameTable

end TransactSql
