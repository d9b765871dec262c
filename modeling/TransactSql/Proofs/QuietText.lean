import Mathlib.Tactic.Common
import TransactSql.Calendar
import TransactSql.Proofs.Lowered
import TransactSql.Proofs.Lowering
import TransactSql.Sql.Dialect
import TransactSql.Sql.NativeType

/-!
# Quiet text

Numbers, dates, types, parameters and function names go into a statement without quotes around
them. Their texts are quiet: they hold no character that opens or closes quotes or that ends a
statement. For each of them that follows from where the text comes from. Names, and numbers
without their signs, are even bare: they have letters, digits, underscores and points only.
-/

namespace TransactSql

namespace Text

/-- Whether a character neither opens nor closes quotes and ends no statement. -/
def isQuietChar (c : Char) : Bool :=
  c != '[' && c != ']' && c != '\'' && c != ';'

/-- A text of quiet characters. -/
def IsQuiet (s : List Char) : Prop :=
  ∀ c ∈ s, isQuietChar c

instance (s : List Char) : Decidable (IsQuiet s) :=
  decidable_of_iff (s.all isQuietChar) List.all_eq_true

variable {s t : List Char}

@[simp]
theorem isQuiet_nil : IsQuiet [] := by
  simp [IsQuiet]

@[simp]
theorem isQuiet_cons {c : Char} : IsQuiet (c :: s) ↔ isQuietChar c ∧ IsQuiet s := by
  simp [IsQuiet]

@[simp]
theorem isQuiet_append : IsQuiet (s ++ t) ↔ IsQuiet s ∧ IsQuiet t := by
  simp [IsQuiet, or_imp, forall_and]

/-! ## Bare text -/

/-- Whether a character is a letter or digit of ASCII, an underscore or a point. -/
def isBareChar (c : Char) : Bool :=
  c.isAlphanum || c == '_' || c == '.'

/-- A text of bare characters, as names of parameters and functions and numbers without a sign
are. -/
def IsBare (s : List Char) : Prop :=
  ∀ c ∈ s, isBareChar c

@[simp]
theorem isBare_nil : IsBare [] := by
  simp [IsBare]

@[simp]
theorem isBare_cons {c : Char} : IsBare (c :: s) ↔ isBareChar c ∧ IsBare s := by
  simp [IsBare]

@[simp]
theorem isBare_append : IsBare (s ++ t) ↔ IsBare s ∧ IsBare t := by
  simp [IsBare, or_imp, forall_and]

/-- Parts of a bare text are bare. -/
theorem IsBare.of_subset (h : IsBare t) (hsub : s ⊆ t) : IsBare s :=
  fun c hc => h c (hsub hc)

theorem isBare_replicate {c : Char} (hc : isBareChar c) (n : Nat) :
    IsBare (List.replicate n c) := by
  intro c' hc'
  rw [List.eq_of_mem_replicate hc']
  exact hc

theorem isBare_of_isAlphanum (h : ∀ c ∈ s, c.isAlphanum) : IsBare s :=
  fun c hc => by simp [isBareChar, h c hc]

/-- A bare text has no character that is not bare. -/
theorem IsBare.ne (h : IsBare s) {c other : Char} (hc : c ∈ s) (hother : isBareChar other = false) :
    c ≠ other := by
  rintro rfl
  exact absurd (h c hc) (by simp [hother])

theorem IsBare.isQuiet (h : IsBare s) : IsQuiet s := by
  intro c hc
  have hne : ∀ {other}, isBareChar other = false → c ≠ other := h.ne hc
  simp only [isQuietChar, Bool.and_eq_true, bne_iff_ne]
  exact ⟨⟨⟨hne rfl, hne rfl⟩, hne rfl⟩, hne rfl⟩

/-! ### Names -/

/-- Characters of ASCII, checked one by one. -/
theorem isAlphanum_toUpper_ascii : ∀ n < 128, (Char.ofNat n).isAlphanum →
    (Char.ofNat n).toUpper.isAlphanum := by
  decide

/-- Letters and digits are characters of ASCII. -/
theorem toNat_lt_of_isAlphanum {c : Char} (h : c.isAlphanum) : c.toNat < 128 := by
  have hle : ∀ {last : Char}, c.val ≤ last.val → c.toNat ≤ last.toNat :=
    UInt32.le_iff_toNat_le.1
  -- the last character of each range is one of ASCII
  rcases Bool.or_eq_true_iff.1 h with hletter | hdigit
  · rcases Bool.or_eq_true_iff.1 hletter with hupper | hlower
    · have hlast : c.val ≤ 'Z'.val := (of_decide_eq_true hupper).2
      exact Nat.lt_of_le_of_lt (hle hlast) (by decide)
    · have hlast : c.val ≤ 'z'.val := of_decide_eq_true (Bool.and_eq_true_iff.1 hlower).2
      exact Nat.lt_of_le_of_lt (hle hlast) (by decide)
  · have hlast : c.val ≤ '9'.val := of_decide_eq_true (Bool.and_eq_true_iff.1 hdigit).2
    exact Nat.lt_of_le_of_lt (hle hlast) (by decide)

theorem isAlphanum_toUpper {c : Char} (h : c.isAlphanum) : c.toUpper.isAlphanum := by
  have hupper := isAlphanum_toUpper_ascii c.toNat (toNat_lt_of_isAlphanum h)
  rw [Char.ofNat_toNat] at hupper
  exact hupper h

/-- The capitals of a plain name. -/
theorem isBare_upper {name : String} (h : IsPlainName name) : IsBare (upper name).toList := by
  refine isBare_of_isAlphanum fun c hc => ?_
  simp only [upper, String.toList_ofList, List.mem_flatMap] at hc
  obtain ⟨c', hc', hc⟩ := hc
  have hplain := h c' hc'
  have hascii := toNat_lt_of_isAlphanum hplain
  rw [upperChar, if_pos hascii, List.mem_singleton] at hc
  rw [hc]
  exact isAlphanum_toUpper hplain

theorem isQuiet_upper {name : String} (h : IsPlainName name) : IsQuiet (upper name).toList :=
  (isBare_upper h).isQuiet

theorem isBare_paramName {name : String} (h : isParamName name) : IsBare name.toList := by
  have hletter : ∀ c : Char, c.isAlphanum ∨ c = '_' → isBareChar c := by
    rintro c (hc | rfl)
    · simp [isBareChar, hc]
    · rfl
  unfold isParamName at h
  split at h
  · cases h
  · next c rest heq =>
    simp only [Bool.and_eq_true, Bool.or_eq_true, beq_iff_eq, List.all_eq_true] at h
    rw [heq, isBare_cons]
    refine ⟨hletter c ?_, fun c' hc' => hletter c' (h.2 c' hc')⟩
    exact h.1.imp_left fun hc => by simp [Char.isAlphanum, hc]

theorem isQuiet_paramName {name : String} (h : isParamName name) : IsQuiet name.toList :=
  (isBare_paramName h).isQuiet

/-! ### Numbers -/

/-- The digits of a number. -/
theorem isBare_toDigits (n : Nat) : IsBare (Nat.toDigits 10 n) := by
  refine isBare_of_isAlphanum fun c hc => ?_
  have hdigit : c.isDigit := Nat.isDigit_of_mem_toDigits (by decide) (by decide) hc
  simp [Char.isAlphanum, hdigit]

theorem isBare_natText (n : Nat) : IsBare (toString n).toList := by
  rw [Nat.toString_eq_ofList_toDigits, String.toList_ofList]
  exact isBare_toDigits n

theorem isQuiet_intText (n : Int) : IsQuiet (toString n).toList := by
  rw [Int.toString_eq_repr, Int.repr_eq_if]
  split
  · exact (isBare_natText _).isQuiet
  · rw [String.toList_append, isQuiet_append]
    exact ⟨by decide, (isBare_natText _).isQuiet⟩

end Text

open Text

namespace Decimal

/-- The shortest decimal of a number has digits only. -/
theorem isBare_shortest (x : Binary64) : IsBare (shortest x).digits := by
  unfold shortest
  simp only
  cases hfound : (List.range 17).findSome? _ with
  | none => simp [isBareChar, Char.isAlphanum, Char.isDigit]
  | some d =>
    obtain ⟨n, -, hn⟩ := List.exists_of_findSome?_eq_some hfound
    obtain ⟨c, -, rfl⟩ := Option.map_eq_some_iff.1 hn
    -- the digits of the multiple, without zeros at the end
    refine (isBare_toDigits c).of_subset ?_
    intro digit hdigit
    have hmem := (List.dropWhile_sublist _).subset (List.mem_reverse.1 hdigit)
    exact List.mem_reverse.1 hmem

theorem isBare_fractionText (layout : Layout) {digits : List Char} (h : IsBare digits) :
    IsBare (fractionText layout digits) := by
  unfold fractionText
  split
  · split
    · simp only [isBare_cons]
      exact ⟨rfl, rfl, isBare_nil⟩
    · exact isBare_nil
  · exact isBare_cons.2 ⟨rfl, h⟩

theorem isBare_plainText (layout : Layout) {d : Digits} (h : IsBare d.digits) :
    IsBare (plainText layout d) := by
  unfold plainText
  have hzeros : ∀ n, IsBare (List.replicate n '0') := isBare_replicate rfl
  split
  · simp only [List.cons_append, isBare_cons, isBare_append]
    exact ⟨rfl, rfl, hzeros _, h⟩
  · have hwhole : IsBare (d.digits.take (d.exponent.toNat + 1)) :=
      h.of_subset (List.take_subset _ _)
    have hrest : IsBare (d.digits.drop (d.exponent.toNat + 1)) :=
      h.of_subset (List.drop_subset _ _)
    simp only [isBare_append]
    exact ⟨⟨hwhole, hzeros _⟩, isBare_fractionText layout hrest⟩

/-- A decimal with an exponent: only the exponent can have a sign. -/
theorem scientificText_eq (layout : Layout) {d : Digits} (h : IsBare d.digits) :
    ∃ mantissa sign, IsBare mantissa ∧ (sign = [] ∨ sign = ['-'] ∨ sign = ['+']) ∧
      scientificText layout d =
        mantissa ++ 'e' :: (sign ++ Nat.toDigits 10 d.exponent.natAbs) := by
  unfold scientificText
  refine ⟨_, _, ?_, ?_, List.append_assoc _ _ _⟩
  · split
    · next hdigits =>
      rw [hdigits] at h
      simp only [isBare_cons] at h ⊢
      exact ⟨h.1, rfl, h.2⟩
    · exact h
  · split
    · exact .inr (.inl rfl)
    · split
      · exact .inr (.inr rfl)
      · exact .inl rfl

theorem isQuiet_scientificText (layout : Layout) {d : Digits} (h : IsBare d.digits) :
    IsQuiet (scientificText layout d) := by
  obtain ⟨mantissa, sign, hmantissa, hsign, htext⟩ := scientificText_eq layout h
  have hquiet : IsQuiet sign := by
    rcases hsign with rfl | rfl | rfl <;> decide
  rw [htext, isQuiet_append, isQuiet_cons, isQuiet_append]
  exact ⟨hmantissa.isQuiet, rfl, hquiet, (isBare_toDigits _).isQuiet⟩

/-- A number in any layout. -/
theorem isQuiet_render (layout : Layout) (x : Binary64) : IsQuiet (layout.render x).toList := by
  unfold Layout.render
  simp only [String.toList_ofList, isQuiet_append]
  refine ⟨by split <;> decide, ?_⟩
  split
  · exact isQuiet_cons.2 ⟨rfl, (isBare_fractionText layout isBare_nil).isQuiet⟩
  · split
    · exact (isBare_plainText layout (isBare_shortest x)).isQuiet
    · exact isQuiet_scientificText layout (isBare_shortest x)

end Decimal

/-! ## Dates and types -/

namespace Calendar

theorem isQuiet_zeroPadded (width n : Nat) : IsQuiet (zeroPadded width n).toList := by
  unfold zeroPadded
  rw [String.toList_ofList, isQuiet_append]
  exact ⟨(isBare_replicate rfl _).isQuiet, (isBare_toDigits n).isQuiet⟩

theorem isQuiet_yearText (year : Int) : IsQuiet (yearText year).toList := by
  have hdigits := isQuiet_zeroPadded 4 year.natAbs
  unfold yearText
  simp only
  split
  · rw [String.toList_append, isQuiet_append]
    exact ⟨by decide, hdigits⟩
  · split
    · rw [String.toList_append, isQuiet_append]
      exact ⟨by decide, hdigits⟩
    · exact hdigits

end Calendar

theorem Date.isQuiet_text (d : Date) : IsQuiet d.text.toList := by
  unfold Date.text
  simp only [String.toList_append, isQuiet_append]
  exact ⟨⟨⟨⟨Calendar.isQuiet_yearText _, by decide⟩, Calendar.isQuiet_zeroPadded _ _⟩, by decide⟩,
    Calendar.isQuiet_zeroPadded _ _⟩

theorem NativeType.isQuiet_sql (type : NativeType) : IsQuiet type.sql.toList := by
  cases type with
  | decimal precision scale =>
    unfold NativeType.sql
    simp only [String.toList_append, isQuiet_append]
    have hnumber : ∀ n : Nat, IsQuiet (toString n).toList := fun n => (isBare_natText n).isQuiet
    exact ⟨⟨⟨⟨by decide, hnumber _⟩, by decide⟩, hnumber _⟩, by decide⟩
  | _ => decide

theorem DatePart.isQuiet_name (part : DatePart) : IsQuiet part.name.toList := by
  cases part <;> decide

end TransactSql
