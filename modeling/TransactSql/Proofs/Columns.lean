import Mathlib.Data.List.Forall2
import Mathlib.Data.List.TakeWhile
import Mathlib.Tactic.Common
import TransactSql.Client.Catalog
import TransactSql.Proofs.Lowering

/-!
# Columns from the catalogue

The database describes the columns of a table one by one, and the table has them by position. Which
list that is can be said without sorting: it has the columns that were given, its positions ascend,
and those at one position stay in the order in which they came. Only one list is so
(`ColumnInfo.Ordered.unique`).

The name of a type is trimmed, cut at a parenthesis and trimmed again. The first trimming makes no
difference (`NativeType.baseName_eq`), so what stands around the name or after a parenthesis can be
followed through one pass. `Table.ofColumns_keeps_columns` puts both together.
-/

namespace TransactSql

/-! ## Names of types -/

namespace Text

/-- Small letters leave white space as it is. -/
theorem toLower_of_isWhiteSpace {c : Char} (h : isWhiteSpace c) : c.toLower = c := by
  have hcapital : ¬ (c.val ≥ 'A'.val ∧ c.val ≤ 'Z'.val) := by
    rintro ⟨hfirst, hlast⟩
    have hfirst : 65 ≤ c.toNat := hfirst
    have hlast : c.toNat ≤ 90 := hlast
    simp [isWhiteSpace, inRanges, whiteSpace] at h
    omega
  exact dif_neg hcapital

theorem ne_parenthesis_of_isWhiteSpace {c : Char} (h : isWhiteSpace c) : c ≠ '(' := by
  rintro rfl
  exact absurd h (by decide)

/-- What is trimmed off is white space. -/
theorem exists_trimmed (cs : List Char) :
    ∃ before after, (∀ c ∈ before, isWhiteSpace c) ∧ (∀ c ∈ after, isWhiteSpace c) ∧
      cs = before ++ (trimChars cs ++ after) := by
  have hback : cs.dropWhile isWhiteSpace = trimChars cs ++
      ((cs.dropWhile isWhiteSpace).reverse.takeWhile isWhiteSpace).reverse := by
    rw [trimChars, ← List.reverse_append, List.takeWhile_append_dropWhile, List.reverse_reverse]
  refine ⟨cs.takeWhile isWhiteSpace,
    ((cs.dropWhile isWhiteSpace).reverse.takeWhile isWhiteSpace).reverse, ?_, ?_, ?_⟩
  · exact fun c hc => List.mem_takeWhile_imp hc
  · exact fun c hc => List.mem_takeWhile_imp (List.mem_reverse.1 hc)
  · rw [← hback, List.takeWhile_append_dropWhile]

theorem trimChars_append_left {before : List Char} (h : ∀ c ∈ before, isWhiteSpace c)
    (cs : List Char) : trimChars (before ++ cs) = trimChars cs := by
  rw [trimChars, List.dropWhile_append_of_pos h, trimChars]

theorem trimChars_append_right {after : List Char} (h : ∀ c ∈ after, isWhiteSpace c)
    (cs : List Char) : trimChars (cs ++ after) = trimChars cs := by
  unfold trimChars
  rw [List.dropWhile_append]
  split
  · next hnone =>
    rw [List.isEmpty_iff.1 hnone, List.dropWhile_eq_nil_iff.2 h]
  · rw [List.reverse_append, List.dropWhile_append_of_pos (by simpa using h)]

end Text

namespace NativeType

open Text (isWhiteSpace trimChars)

/-- Small letters up to a parenthesis, without white space around them. -/
def leadingName (cs : List Char) : List Char :=
  trimChars ((cs.map Char.toLower).takeWhile (· != '('))

theorem map_toLower_of_isWhiteSpace {cs : List Char} (h : ∀ c ∈ cs, isWhiteSpace c) :
    cs.map Char.toLower = cs :=
  (List.map_congr_left fun c hc => Text.toLower_of_isWhiteSpace (h c hc)).trans (List.map_id cs)

theorem leadingName_append_left {before : List Char} (h : ∀ c ∈ before, isWhiteSpace c)
    (cs : List Char) : leadingName (before ++ cs) = leadingName cs := by
  have hplain : ∀ c ∈ before, (c != '(') = true := by
    intro c hc
    simpa using Text.ne_parenthesis_of_isWhiteSpace (h c hc)
  unfold leadingName
  rw [List.map_append, map_toLower_of_isWhiteSpace h, List.takeWhile_append_of_pos hplain,
    Text.trimChars_append_left h]

theorem leadingName_append_right {after : List Char} (h : ∀ c ∈ after, isWhiteSpace c)
    (cs : List Char) : leadingName (cs ++ after) = leadingName cs := by
  have hplain : ∀ c ∈ after, (c != '(') = true := by
    intro c hc
    simpa using Text.ne_parenthesis_of_isWhiteSpace (h c hc)
  unfold leadingName
  rw [List.map_append, map_toLower_of_isWhiteSpace h, List.takeWhile_append]
  split
  · next hall =>
    -- no parenthesis before the white space, which is then read and trimmed off
    rw [List.takeWhile_eq_self_iff.2 hplain, Text.trimChars_append_right h,
      (List.takeWhile_prefix _).eq_of_length hall]
  · rfl

theorem leadingName_suffix (cs suffix : List Char) :
    leadingName (cs ++ '(' :: suffix) = leadingName cs := by
  unfold leadingName
  rw [List.map_append, List.map_cons, List.takeWhile_append]
  split
  · next hall =>
    have hstop : (('('.toLower :: suffix.map Char.toLower).takeWhile (· != '(')) = [] := rfl
    rw [hstop, List.append_nil, (List.takeWhile_prefix _).eq_of_length hall]
  · rfl

/-- The white space around the whole name would be trimmed off in the end. -/
theorem baseName_eq (cs : List Char) : baseName cs = leadingName cs := by
  obtain ⟨before, after, hbefore, hafter, hcs⟩ := Text.exists_trimmed cs
  rw [hcs, leadingName_append_left hbefore, leadingName_append_right hafter, ← hcs]
  rfl

end NativeType

namespace LogicalType

variable {reported reported' : String} {precision scale : Option UInt8}

theorem ofCatalog?_congr (h : NativeType.leadingName reported.toList =
      NativeType.leadingName reported'.toList) :
    ofCatalog? reported precision scale = ofCatalog? reported' precision scale := by
  rw [ofCatalog?, NativeType.parse?, NativeType.baseName_eq, h, ← NativeType.baseName_eq,
    ← NativeType.parse?, ← ofCatalog?]

/-- Whether a type is known does not depend on precision and scale. -/
theorem isSome_ofCatalog? :
    (ofCatalog? reported precision scale).isSome = (NativeType.parse? reported).isSome :=
  Option.isSome_map

end LogicalType

/-! ## Lists of columns -/

/-- All items of a list succeed, one result for each. -/
theorem mapM_eq_ok {α β ε : Type} {f : α → Except ε β} {l : List α} {r : List β} :
    l.mapM f = .ok r ↔ List.Forall₂ (fun a b => f a = .ok b) l r := by
  induction l generalizing r with
  | nil => simp [pure, Except.pure, eq_comm]
  | cons a l ih =>
    simp only [List.mapM_cons, exceptBind_eq_ok, ih, List.forall₂_cons_left_iff]
    constructor
    · rintro ⟨b, hb, bs, hbs, h⟩
      cases h
      exact ⟨b, bs, hb, hbs, rfl⟩
    · rintro ⟨b, bs, hb, hbs, rfl⟩
      exact ⟨b, hb, bs, hbs, rfl⟩

/-- A list fails at its first item that fails. -/
theorem mapM_eq_error {α β ε : Type} {f : α → Except ε β} {l : List α} {e : ε} :
    l.mapM f = .error e ↔
      ∃ before a after, l = before ++ a :: after ∧ (∀ b ∈ before, ∃ c, f b = .ok c) ∧
        f a = .error e := by
  constructor
  · intro h
    induction l with
    | nil => cases h
    | cons a l ih =>
      rw [List.mapM_cons] at h
      cases ha : f a with
      | error e' =>
        rw [ha] at h
        cases h
        exact ⟨[], a, l, rfl, by simp, ha⟩
      | ok c =>
        rw [ha] at h
        have hrest : l.mapM f = .error e := by
          cases hl : l.mapM f with
          | error e' => simpa [hl, bind, Except.bind] using h
          | ok r => simp [hl, bind, Except.bind, pure, Except.pure] at h
        obtain ⟨before, b, after, rfl, hbefore, hb⟩ := ih hrest
        exact ⟨a :: before, b, after, rfl, List.forall_mem_cons.2 ⟨⟨c, ha⟩, hbefore⟩, hb⟩
  · rintro ⟨before, a, after, rfl, hbefore, ha⟩
    induction before with
    | nil => simp [List.mapM_cons, ha, bind, Except.bind]
    | cons b before ih =>
      obtain ⟨⟨c, hc⟩, hbefore⟩ := List.forall_mem_cons.1 hbefore
      simp [List.mapM_cons, hc, ih hbefore, bind, Except.bind]

namespace ColumnInfo

/-- The columns in ascending order of their positions, where those at one position are in the order
in which they were given. -/
structure Ordered (columns sorted : List ColumnInfo) : Prop where
  perm : sorted.Perm columns
  ascending : sorted.Pairwise fun a b => a.position.toInt ≤ b.position.toInt
  stable : ∀ position : Int32,
    sorted.filter (·.position = position) = columns.filter (·.position = position)

theorem ordered_inOrder (columns : List ColumnInfo) : Ordered columns (inOrder columns) := by
  have htrans : ∀ a b c : ColumnInfo, decide (a.position.toInt ≤ b.position.toInt) →
      decide (b.position.toInt ≤ c.position.toInt) →
      decide (a.position.toInt ≤ c.position.toInt) := by
    intro a b c hab hbc
    exact decide_eq_true (Int.le_trans (of_decide_eq_true hab) (of_decide_eq_true hbc))
  have htotal : ∀ a b : ColumnInfo, (decide (a.position.toInt ≤ b.position.toInt) ||
      decide (b.position.toInt ≤ a.position.toInt)) = true := by
    intro a b
    simpa using Int.le_total a.position.toInt b.position.toInt
  have hperm : (inOrder columns).Perm columns := List.mergeSort_perm _ _
  refine ⟨hperm, ?_, fun position => ?_⟩
  · exact (List.pairwise_mergeSort htrans htotal columns).imp fun h => of_decide_eq_true h
  · -- columns at one position are in order, so that sorting moves none of them past another
    have hfiltered : ∀ c ∈ columns.filter (·.position = position), c.position = position := by
      intro c hc
      simpa using (List.mem_filter.1 hc).2
    have hequal : (columns.filter (·.position = position)).Pairwise fun a b =>
        decide (a.position.toInt ≤ b.position.toInt) := by
      refine List.pairwise_iff_forall_sublist.2 fun {a b} hab => ?_
      rw [hfiltered a (hab.subset (by simp)), hfiltered b (hab.subset (by simp))]
      exact decide_eq_true (Int.le_refl _)
    have hsublist := (List.sublist_mergeSort htrans htotal hequal List.filter_sublist).filter
      (·.position = position)
    simp only [List.filter_filter, Bool.and_self] at hsublist
    refine (hsublist.eq_of_length ?_).symm
    exact (hperm.symm.filter _).length_eq

/-- Only one list is in that order: its head has the lowest position and comes first there. -/
theorem Ordered.unique {columns sorted other : List ColumnInfo} (h : Ordered columns sorted)
    (hother : Ordered columns other) : other = sorted := by
  have hperm : sorted.Perm other := h.perm.trans hother.perm.symm
  have hsame : ∀ position : Int32, sorted.filter (·.position = position) =
      other.filter (·.position = position) :=
    fun position => (h.stable position).trans (hother.stable position).symm
  have hsorted := h.ascending
  have hothers := hother.ascending
  clear h hother
  induction sorted generalizing other with
  | nil => exact hperm.nil_eq.symm
  | cons a rest ih =>
    cases other with
    | nil => exact absurd hperm.symm.nil_eq (by simp)
    | cons b others =>
      obtain ⟨hleast, hrest⟩ := List.pairwise_cons.1 hsorted
      obtain ⟨hleast', hothers⟩ := List.pairwise_cons.1 hothers
      have hle : ∀ c ∈ a :: rest, a.position.toInt ≤ c.position.toInt := by
        simpa using hleast
      have hle' : ∀ c ∈ b :: others, b.position.toInt ≤ c.position.toInt := by
        simpa using hleast'
      have hposition : b.position = a.position := Int32.toInt_inj.1 (Int.le_antisymm
        (hle' a (hperm.mem_iff.1 List.mem_cons_self)) (hle b (hperm.mem_iff.2 List.mem_cons_self)))
      have hhead : b = a := by
        have hfilter := hsame a.position
        rw [List.filter_cons_of_pos (by simp), List.filter_cons_of_pos (by simp [hposition])]
          at hfilter
        exact (List.cons.inj hfilter).1.symm
      subst hhead
      have htail : ∀ position : Int32, rest.filter (·.position = position) =
          others.filter (·.position = position) := by
        intro position
        have hfilter := hsame position
        by_cases hb : b.position = position
        · rw [List.filter_cons_of_pos (by simp [hb]), List.filter_cons_of_pos (by simp [hb])]
            at hfilter
          exact (List.cons.inj hfilter).2
        · rwa [List.filter_cons_of_neg (by simp [hb]), List.filter_cons_of_neg (by simp [hb])]
            at hfilter
      rw [ih hperm.cons_inv htail hrest hothers]

/-! ## The type of a column -/

/-- A number of 32 bits as a number of eight bits, absent if it is not one. -/
def Narrows (n : Option Int32) (byte : Option UInt8) : Prop :=
  ∀ b, byte = some b ↔ ∃ k, n = some k ∧ k.toInt = b.toNat

theorem narrows_eightBits? (n : Option Int32) : Narrows n (eightBits? n) := by
  intro b
  cases n with
  | none => simp [eightBits?]
  | some k =>
    have hb : b.toNat < 256 := b.toNat_lt
    simp only [eightBits?, Option.bind_some, Option.some.injEq, exists_eq_left']
    constructor
    · intro h
      split at h
      · next hrange =>
        obtain ⟨hlow, hhigh⟩ : 0 ≤ k.toInt ∧ k.toInt ≤ 255 := by simpa using hrange
        rw [← Option.some.inj h, UInt8.toNat_ofNat']
        omega
      · cases h
    · intro h
      rw [if_pos (by simp; omega), h, Int.toNat_natCast, UInt8.ofNat_toNat]

theorem Narrows.eq {n : Option Int32} {byte : Option UInt8} (h : Narrows n byte) :
    byte = eightBits? n :=
  Option.ext fun b => (h b).trans (narrows_eightBits? n b).symm

/-- The column of a table that the database describes. -/
structure Describes (c : ColumnInfo) (column : String × LogicalType) : Prop where
  name : column.1 = c.name
  type : ∃ precision scale, Narrows c.precision precision ∧ Narrows c.scale scale ∧
    LogicalType.ofCatalog? c.dataType precision scale = some column.2

theorem typed_eq_ok {c : ColumnInfo} {column : String × LogicalType} :
    c.typed = .ok column ↔ c.Describes column := by
  obtain ⟨name, type⟩ := column
  unfold typed
  constructor
  · intro h
    cases htype : c.logicalType? with
    | none => simp [htype] at h
    | some found =>
      rw [htype] at h
      cases h
      exact ⟨rfl, _, _, narrows_eightBits? _, narrows_eightBits? _, htype⟩
  · rintro ⟨rfl, precision, scale, hprecision, hscale, htype⟩
    rw [hprecision.eq, hscale.eq] at htype
    rw [logicalType?, htype]

end ColumnInfo

namespace LogicalType

/-- A reported type that has a logical type, whatever the precision and scale are. -/
def Mapped (reported : String) : Prop :=
  ∀ precision scale, (ofCatalog? reported precision scale).isSome

/-- A reported type without a logical type, whatever the precision and scale are. -/
def Unmapped (reported : String) : Prop :=
  ∀ precision scale, ofCatalog? reported precision scale = none

theorem mapped_of_isSome {reported : String} {precision scale : Option UInt8}
    (h : (ofCatalog? reported precision scale).isSome) : Mapped reported := by
  intro precision' scale'
  rw [isSome_ofCatalog?] at h ⊢
  exact h

theorem unmapped_of_eq_none {reported : String} {precision scale : Option UInt8}
    (h : ofCatalog? reported precision scale = none) : Unmapped reported := by
  have hname : (NativeType.parse? reported).isSome = false := by
    rw [← isSome_ofCatalog?, h, Option.isSome_none]
  intro precision' scale'
  rw [← Option.isNone_iff_eq_none, ← Option.not_isSome, isSome_ofCatalog?, hname]
  rfl

theorem ofCatalog?_of_letterCase {reported reported' : String}
    (h : reported.toList.map Char.toLower = reported'.toList.map Char.toLower)
    (precision scale : Option UInt8) :
    ofCatalog? reported precision scale = ofCatalog? reported' precision scale :=
  ofCatalog?_congr (by rw [NativeType.leadingName, h, ← NativeType.leadingName])

theorem ofCatalog?_of_spaces {before after : String}
    (hbefore : ∀ c ∈ before.toList, Text.isWhiteSpace c)
    (hafter : ∀ c ∈ after.toList, Text.isWhiteSpace c) (reported : String)
    (precision scale : Option UInt8) :
    ofCatalog? (before ++ reported ++ after) precision scale =
      ofCatalog? reported precision scale := by
  refine ofCatalog?_congr ?_
  rw [String.toList_append, String.toList_append, NativeType.leadingName_append_right hafter,
    NativeType.leadingName_append_left hbefore]

theorem ofCatalog?_of_suffix (reported inside : String) (precision scale : Option UInt8) :
    ofCatalog? (reported ++ "(" ++ inside ++ ")") precision scale =
      ofCatalog? reported precision scale := by
  refine ofCatalog?_congr ?_
  have hsuffix : (reported ++ "(" ++ inside ++ ")").toList =
      reported.toList ++ '(' :: (inside ++ ")").toList := by
    simp
  rw [hsuffix, NativeType.leadingName_suffix]

end LogicalType

namespace ColumnInfo

theorem typed_eq_error {c : ColumnInfo} {e : ClientError} :
    c.typed = .error e ↔
      LogicalType.Unmapped c.dataType ∧ e = .unmappedType c.name c.dataType := by
  unfold typed
  constructor
  · intro h
    cases htype : c.logicalType? with
    | none =>
      rw [htype] at h
      cases h
      exact ⟨LogicalType.unmapped_of_eq_none htype, rfl⟩
    | some found => simp [htype] at h
  · rintro ⟨hunmapped, rfl⟩
    rw [logicalType?, hunmapped]

theorem exists_typed {c : ColumnInfo} :
    (∃ column, c.typed = .ok column) ↔ LogicalType.Mapped c.dataType := by
  constructor
  · rintro ⟨column, h⟩
    obtain ⟨-, precision, scale, -, -, htype⟩ := typed_eq_ok.1 h
    exact LogicalType.mapped_of_isSome (Option.isSome_of_eq_some htype)
  · intro h
    obtain ⟨type, htype⟩ := Option.isSome_iff_exists.1
      (h (eightBits? c.precision) (eightBits? c.scale))
    exact ⟨(c.name, type), by rw [typed, logicalType?, htype]⟩

end ColumnInfo

/-! ## Tables -/

namespace Table

open ColumnInfo

variable {name : TableName} {columns : List ColumnInfo}

theorem ofColumns_eq_ok {t : Table} :
    ofColumns name columns = .ok t ↔
      t.name = name ∧ List.Forall₂ Describes (inOrder columns) t.columns := by
  have hitems : (inOrder columns).mapM typed = .ok t.columns ↔
      List.Forall₂ Describes (inOrder columns) t.columns := by
    simp only [mapM_eq_ok, typed_eq_ok]
  rw [← hitems, ofColumns]
  cases (inOrder columns).mapM typed with
  | error e => simp [Except.map]
  | ok typed =>
    obtain ⟨name', columns'⟩ := t
    simp [Except.map, eq_comm]

theorem ofColumns_eq_error {e : ClientError} :
    ofColumns name columns = .error e ↔
      ∃ before c after, inOrder columns = before ++ c :: after ∧
        (∀ b ∈ before, LogicalType.Mapped b.dataType) ∧ LogicalType.Unmapped c.dataType ∧
        e = .unmappedType c.name c.dataType := by
  simp only [← exists_typed, ← typed_eq_error, ← mapM_eq_error, ofColumns]
  cases (inOrder columns).mapM typed with
  | error e' => simp [Except.map]
  | ok typed => simp [Except.map]

theorem exists_ofColumns :
    (∃ t, ofColumns name columns = .ok t) ↔
      ∀ c ∈ columns, LogicalType.Mapped c.dataType := by
  have hmem : ∀ c, c ∈ columns ↔ c ∈ inOrder columns :=
    fun c => (ordered_inOrder columns).perm.mem_iff.symm
  simp only [hmem]
  cases h : ofColumns name columns with
  | ok t =>
    refine iff_of_true ⟨t, rfl⟩ fun c hc => ?_
    obtain ⟨column, -, hcolumn⟩ :=
      exists_of_mem_forall₂ (List.Forall₂.flip (ofColumns_eq_ok.1 h).2) hc
    exact exists_typed.1 ⟨column, typed_eq_ok.2 hcolumn⟩
  | error e =>
    obtain ⟨before, c, after, horder, -, hunmapped, -⟩ := ofColumns_eq_error.1 h
    refine iff_of_false (by simp) fun hall => ?_
    have hmapped := hall c (by simp [horder]) none none
    rw [hunmapped] at hmapped
    cases hmapped

/-- A table has a column for each one that the database describes, in the order of their positions
and then of the description, and fails at the first one in this order whose type has no logical
type; what type a name has depends on neither its small and capital letters, the white space around
it nor a length in parentheses. -/
theorem ofColumns_keeps_columns (name : TableName) (columns : List ColumnInfo) :
    (∃ sorted, Ordered columns sorted ∧ (∀ other, Ordered columns other → other = sorted) ∧
      (∀ t, ofColumns name columns = .ok t ↔
        t.name = name ∧ List.Forall₂ Describes sorted t.columns) ∧
      (∀ e, ofColumns name columns = .error e ↔
        ∃ before c after, sorted = before ++ c :: after ∧
          (∀ b ∈ before, LogicalType.Mapped b.dataType) ∧ LogicalType.Unmapped c.dataType ∧
          e = .unmappedType c.name c.dataType)) ∧
    ((∃ t, ofColumns name columns = .ok t) ↔ ∀ c ∈ columns, LogicalType.Mapped c.dataType) ∧
    (∀ reported precision scale,
      (∀ reported' : String,
        reported'.toList.map Char.toLower = reported.toList.map Char.toLower →
        LogicalType.ofCatalog? reported' precision scale =
          LogicalType.ofCatalog? reported precision scale) ∧
      (∀ before after : String, (∀ c ∈ before.toList, Text.isWhiteSpace c) →
        (∀ c ∈ after.toList, Text.isWhiteSpace c) →
        LogicalType.ofCatalog? (before ++ reported ++ after) precision scale =
          LogicalType.ofCatalog? reported precision scale) ∧
      (∀ inside : String,
        LogicalType.ofCatalog? (reported ++ "(" ++ inside ++ ")") precision scale =
          LogicalType.ofCatalog? reported precision scale)) := by
  refine ⟨⟨inOrder columns, ordered_inOrder columns, ?_, ?_, ?_⟩, exists_ofColumns, ?_⟩
  · exact fun other hother => (ordered_inOrder columns).unique hother
  · exact fun t => ofColumns_eq_ok
  · exact fun e => ofColumns_eq_error
  · intro reported precision scale
    refine ⟨?_, ?_, ?_⟩
    · exact fun reported' h => LogicalType.ofCatalog?_of_letterCase h precision scale
    · exact fun before after hbefore hafter =>
        LogicalType.ofCatalog?_of_spaces hbefore hafter reported precision scale
    · exact fun inside => LogicalType.ofCatalog?_of_suffix reported inside precision scale

/-- Columns out of order, two of them at one position, and a precision beyond eight bits. -/
theorem ofColumns_keeps_columns_of_ties :
    let amount : ColumnInfo := ⟨"amount", 2, "\tDecimal(9)\n", true, some 300, some 2⟩
    let note : ColumnInfo := ⟨"note", 1, "NVARCHAR(max)", true, none, none⟩
    let id : ColumnInfo := ⟨"id", 1, "bigint", false, some 19, some 0⟩
    let hidden : ColumnInfo := ⟨"hidden", -1, "bit", true, none, none⟩
    ofColumns ⟨some "sales", "orders"⟩ [amount, note, id, hidden] =
      .ok ⟨⟨some "sales", "orders"⟩, [("hidden", .boolean), ("note", .string), ("id", .int64),
        ("amount", .decimal 18 2)]⟩ ∧
    LogicalType.ofCatalog? ("\t" ++ "Decimal" ++ "\n") none (some 2) = some (.decimal 18 2) := by
  intro amount note id hidden
  obtain ⟨⟨sorted, -, hunique, hok, -⟩, -, hnames⟩ :=
    ofColumns_keeps_columns ⟨some "sales", "orders"⟩ [amount, note, id, hidden]
  have hordered : Ordered [amount, note, id, hidden] [hidden, note, id, amount] := by
    refine ⟨by decide, by decide, fun position => ?_⟩
    by_cases hhidden : position = -1
    · subst hhidden
      decide
    · by_cases hties : position = 1
      · subst hties
        decide
      · simp [List.filter_cons, amount, note, id, hidden, Ne.symm hhidden, Ne.symm hties]
  have hamount : amount.Describes ("amount", .decimal 18 2) := typed_eq_ok.1 (by decide)
  have hnote : note.Describes ("note", .string) := typed_eq_ok.1 (by decide)
  have hid : id.Describes ("id", .int64) := typed_eq_ok.1 (by decide)
  have hhidden : hidden.Describes ("hidden", .boolean) := typed_eq_ok.1 (by decide)
  refine ⟨(hok _).2 ⟨rfl, ?_⟩, ?_⟩
  · rw [← hunique _ hordered]
    exact .cons hhidden (.cons hnote (.cons hid (.cons hamount .nil)))
  · obtain ⟨hcase, hspaces, -⟩ := hnames "Decimal" none (some 2)
    have htab : ∀ c ∈ "\t".toList, Text.isWhiteSpace c := List.forall_mem_singleton.2 (by decide)
    have hline : ∀ c ∈ "\n".toList, Text.isWhiteSpace c := List.forall_mem_singleton.2 (by decide)
    rw [hspaces "\t" "\n" htab hline, ← hcase "decimal" (by decide)]
    rfl

end Table

end TransactSql
