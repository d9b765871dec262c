import Mathlib.Data.List.Infix
import Mathlib.Data.Prod.Lex
import Mathlib.Tactic.Common
import TransactSql.Config.Connection

/-!
# Connection strings

The options of a connection are joined by keys as they are, so an option that has a key in it reads
as two options, and the texts of different connections can be equal (`strings_confuse_options`).
Here it is said which options are told apart.

A value ends where something begins that can follow it (`Ending`). If no key stands in the value,
and none begins inside another one, then no other value without keys is at the beginning of the text
(`Ending.Apart.cut`). With that both texts are cut, option by option (`PlainInUrl.sameOptions`,
`PlainInOdbc.sameOptions`).

No more can be had. If a key does stand in an option, the option can end before it, and what is
after it belongs to the options that follow. This gives smaller options with the same text
(`HasSmaller`), and in the end ones without keys (`exists_plain`).
-/

namespace TransactSql

/-! ## Cutting a text at a key -/

/-- How a value ends in a text: before a key, or where only one text is left. -/
structure Ending where
  keys : List Char → Prop
  last : Option (List Char)

namespace Ending

/-- What can follow a value. -/
def Follows (e : Ending) (t : List Char) : Prop :=
  (∃ k, e.keys k ∧ k <+: t) ∨ e.last = some t

/-- No key stands in a value. -/
def Free (e : Ending) (value : List Char) : Prop :=
  ∀ k, e.keys k → ¬ k <:+: value

/-- What can follow a value does not begin inside a key or inside the last text. -/
structure Apart (e : Ending) : Prop where
  ne_nil : ∀ {k}, e.keys k → k ≠ []
  key : ∀ {z w t}, e.keys (z ++ w) → z ≠ [] → w ≠ [] → w <+: t → ¬ e.Follows t
  last : ∀ {z t}, e.last = some (z ++ t) → z ≠ [] → ¬ e.Follows t

variable {e : Ending}

/-- A value in which a key stands begins with a shorter value. -/
theorem Apart.exists_shorter (h : e.Apart) {value : String} (hvalue : ¬ e.Free value.toList) :
    ∃ (start : String) (k after : List Char), e.keys k ∧
      value.toList = start.toList ++ (k ++ after) ∧ start.length < value.length := by
  simp only [Free, not_forall, not_not] at hvalue
  obtain ⟨k, hk, start, after, hvalue⟩ := hvalue
  have hlength := congrArg List.length hvalue
  have hne : 0 < k.length := List.length_pos_iff.2 (h.ne_nil hk)
  refine ⟨String.ofList start, k, after, hk, ?_, ?_⟩
  · rw [String.toList_ofList, ← hvalue, List.append_assoc]
  · simp only [List.length_append, String.length_toList] at hlength
    rw [String.length_ofList]
    omega

/-- A value without keys cannot end earlier. -/
theorem Apart.eq_nil (h : e.Apart) {a z t : List Char} (hfree : e.Free (a ++ z))
    (hz : e.Follows (z ++ t)) (ht : e.Follows t) : z = [] := by
  by_contra hne
  obtain ⟨k, hk, rest, hrest⟩ | hlast := hz
  · -- the key ends in what is too much, or it goes on into what can follow
    obtain ⟨w, rfl, -⟩ | ⟨w, rfl, rfl⟩ := List.append_eq_append_iff.1 hrest
    · exact hfree k hk ⟨a, w, by rw [List.append_assoc]⟩
    · by_cases hw : w = []
      · subst hw
        exact hfree _ hk ⟨a, [], by simp⟩
      · exact h.key hk hne hw ⟨rest, rfl⟩ ht
  · exact h.last hlast hne ht

/-- A text has one value without keys at its beginning. -/
theorem Apart.cut (h : e.Apart) {a a' t t' : List Char} (ha : e.Free a) (ha' : e.Free a')
    (ht : e.Follows t) (ht' : e.Follows t') (heq : a ++ t = a' ++ t') : a = a' ∧ t = t' := by
  obtain ⟨z, rfl, rfl⟩ | ⟨z, rfl, rfl⟩ := List.append_eq_append_iff.1 heq
  · obtain rfl := h.eq_nil ha' ht ht'
    simp
  · obtain rfl := h.eq_nil ha ht' ht
    simp

/-- A character with which a text begins, and which does not occur in it again. -/
def Marks (mark : Char) (k : List Char) : Prop :=
  k.head? = some mark ∧ mark ∉ k.tail

instance (mark : Char) (k : List Char) : Decidable (Marks mark k) :=
  inferInstanceAs (Decidable (_ ∧ _))

theorem marks_iff {mark : Char} {k : List Char} :
    Marks mark k ↔ ∃ s, k = mark :: s ∧ mark ∉ s := by
  cases k with
  | nil => simp [Marks]
  | cons c s => simp [Marks, eq_comm]

/-- Keys with a mark do not begin inside each other. -/
theorem apart_of_marks (mark : Char) (hkeys : ∀ k, e.keys k → Marks mark k)
    (hlast : ∀ t, e.last = some t → t = [] ∨ Marks mark t) : e.Apart := by
  simp only [marks_iff] at hkeys hlast
  have hfollows : ∀ {t}, e.Follows t → t = [] ∨ ∃ s, t = mark :: s := by
    rintro t (⟨k, hk, rest, rfl⟩ | ht)
    · obtain ⟨s, rfl, -⟩ := hkeys k hk
      exact .inr ⟨s ++ rest, rfl⟩
    · exact (hlast t ht).imp id fun ⟨s, hs, _⟩ => ⟨s, hs⟩
  refine ⟨?_, ?_, ?_⟩
  · intro k hk
    obtain ⟨s, rfl, -⟩ := hkeys k hk
    exact List.cons_ne_nil _ _
  · intro z w t hk hz hw hwt ht
    obtain ⟨s, hs, hmark⟩ := hkeys _ hk
    obtain ⟨x, z, rfl⟩ := List.exists_cons_of_ne_nil hz
    obtain ⟨y, w, rfl⟩ := List.exists_cons_of_ne_nil hw
    obtain ⟨rest, rfl⟩ := hwt
    cases hs
    obtain ht | ⟨s, ht⟩ := hfollows ht
    · cases ht
    · cases ht
      exact hmark (by simp)
  · intro z t hzt hz ht
    obtain ⟨x, z, rfl⟩ := List.exists_cons_of_ne_nil hz
    obtain hnil | ⟨s, hs, hmark⟩ := hlast _ hzt
    · cases hnil
    · cases hs
      obtain rfl | ⟨s, rfl⟩ := hfollows ht
      · -- nothing can be left where the last text is not empty
        obtain ⟨k, hk, hempty⟩ | ht := ht
        · obtain ⟨s, rfl, -⟩ := hkeys k hk
          simp at hempty
        · rw [hzt] at ht
          cases ht
      · exact hmark (by simp)

/-! ## Numbers -/

/-- A number between a mark and a key. -/
def numberText (mark : Char) (n : UInt16) (key : String) : List Char :=
  mark :: ((toString n.toNat).toList ++ key.toList)

theorem isDigit_of_mem_number {n : Nat} {c : Char} (h : c ∈ (toString n).toList) : c.isDigit := by
  rw [Nat.toString_eq_ofList_toDigits, String.toList_ofList] at h
  exact Nat.isDigit_of_mem_toDigits (by decide) (by decide) h

/-- A number ends where its digits end. -/
theorem numberText_cut {mark next : Char} {n n' : UInt16} {key : String} {s s' : List Char}
    (hkey : key.toList.head? = some next) (hnext : ¬ next.isDigit)
    (h : numberText mark n key ++ s = numberText mark n' key ++ s') : n = n' ∧ s = s' := by
  obtain ⟨rest, hkey⟩ := List.head?_eq_some_iff.1 hkey
  have hdigits : ∀ (n : Nat) (s : List Char),
      ((toString n).toList ++ next :: s).takeWhile Char.isDigit = (toString n).toList := by
    intro n s
    rw [List.takeWhile_append_of_pos fun c hc => isDigit_of_mem_number hc,
      List.takeWhile_cons_of_neg hnext, List.append_nil]
  simp only [numberText, hkey, List.cons_append, List.append_assoc, List.cons.injEq,
    true_and] at h
  have hsame : (toString n.toNat).toList = (toString n'.toNat).toList := by
    rw [← hdigits n.toNat (rest ++ s), h, hdigits]
  have hn : n = n' := by
    have hread := congrArg (fun digits => Nat.ofDigitChars 10 digits 0) hsame
    rw [← UInt16.toNat_inj]
    simpa [Nat.toString_eq_ofList_toDigits] using hread
  rw [hsame] at h
  exact ⟨hn, List.append_cancel_left (List.cons.inj (List.append_cancel_left h)).2⟩

/-! ## Values in connection strings -/

/-- A value before a number, which stands between a mark and a key. -/
def numbered (mark : Char) (key : String) : Ending where
  keys k := ∃ n, k = numberText mark n key
  last := none

/-- A value before one of some keys, or before one text that is the last. -/
def before (keys : List String) (last : Option String) : Ending where
  keys k := ∃ key ∈ keys, k = key.toList
  last := last.map String.toList

theorem follows_numbered (mark : Char) (key : String) (n : UInt16) (t : List Char) :
    (numbered mark key).Follows (numberText mark n key ++ t) :=
  .inl ⟨_, ⟨n, rfl⟩, t, rfl⟩

theorem follows_before {keys : List String} {last : Option String} (key : String)
    (h : key ∈ keys) (t : List Char) : (before keys last).Follows (key.toList ++ t) :=
  .inl ⟨_, ⟨key, h, rfl⟩, t, rfl⟩

theorem free_numbered {mark : Char} {key : String} {value : List Char}
    (h : ¬ key.toList <:+: value) : (numbered mark key).Free value := by
  rintro k ⟨n, rfl⟩ hk
  exact h ((List.suffix_append (mark :: (toString n.toNat).toList) key.toList).isInfix.trans hk)

theorem free_before {keys : List String} {last : Option String} {value : List Char}
    (h : ∀ key ∈ keys, ¬ key.toList <:+: value) : (before keys last).Free value := by
  rintro k ⟨key, hkey, rfl⟩
  exact h key hkey

theorem apart_numbered {mark : Char} {key : String} (hmark : ¬ mark.isDigit)
    (hkey : mark ∉ key.toList) : (numbered mark key).Apart := by
  refine apart_of_marks mark ?_ nofun
  rintro k ⟨n, rfl⟩
  refine ⟨rfl, ?_⟩
  rw [numberText, List.tail_cons, List.mem_append]
  rintro (h | h)
  · exact hmark (isDigit_of_mem_number h)
  · exact hkey h

theorem apart_before (mark : Char) {keys : List String} {last : Option String}
    (hkeys : ∀ key ∈ keys, Marks mark key.toList)
    (hlast : ∀ t ∈ last, t.toList = [] ∨ Marks mark t.toList) : (before keys last).Apart := by
  refine apart_of_marks mark ?_ ?_
  · rintro k ⟨key, hkey, rfl⟩
    exact hkeys key hkey
  · intro t ht
    obtain ⟨t, hmem, rfl⟩ := Option.map_eq_some_iff.1 ht
    exact hlast t hmem

/-- Keys can be compared one by one where no mark sets them apart. -/
theorem apart_of_compared {keys : List String} (hkeys : ∀ key ∈ keys, key.toList ≠ [])
    (h : ∀ key ∈ keys, ∀ w ∈ key.toList.tails, w ≠ [] → w ≠ key.toList →
      ∀ other ∈ keys, ¬ w <+: other.toList ∧ ¬ other.toList <+: w) :
    (before keys none).Apart := by
  refine ⟨?_, ?_, ?_⟩
  · rintro k ⟨key, hkey, rfl⟩
    exact hkeys key hkey
  · rintro z w t ⟨key, hkey, hzw⟩ hz hw hwt (⟨k, ⟨other, hother, rfl⟩, hkt⟩ | hlast)
    · have hne : w ≠ key.toList := by
        rw [← hzw]
        exact fun heq => hz (by simpa using heq)
      obtain ⟨hwk, hkw⟩ := h key hkey w ((List.mem_tails _ _).2 ⟨z, hzw⟩) hw hne other hother
      exact (List.prefix_or_prefix_of_prefix hwt hkt).elim hwk hkw
    · cases hlast
  · intro z t hlast
    cases hlast

/-- A host in a URL. -/
def urlHost : Ending := numbered ':' "?database="

/-- A database in a URL. Without a user the login is trusted, and only the driver follows. -/
def urlDatabase : Ending := before ["&user id=", "&trusted_connection=true&odbc_driver="] none

/-- A user in a URL. -/
def urlUser : Ending := before ["&password=", "&odbc_driver="] none

/-- A password in a URL. -/
def urlPassword : Ending := before ["&odbc_driver="] none

/-- A driver, the first option in a text for ODBC. -/
def odbcDriver : Ending := before ["\x7d;SERVER="] none

/-- A host in a text for ODBC. -/
def odbcHost : Ending := numbered ',' ";DATABASE="

/-- A database in a text for ODBC. A trusted login is the last of all options. -/
def odbcDatabase : Ending := before [";UID="] (some ";Trusted_Connection=yes")

/-- A user in a text for ODBC, which is the last option if there is no password. -/
def odbcUser : Ending := before [";PWD="] (some "")

theorem apart_urlHost : urlHost.Apart := apart_numbered (by decide) (by decide)

theorem apart_odbcHost : odbcHost.Apart := apart_numbered (by decide) (by decide)

theorem apart_urlDatabase : urlDatabase.Apart := apart_of_compared (by decide) (by decide)

theorem apart_urlUser : urlUser.Apart := apart_before '&' (by decide) (by decide)

theorem apart_urlPassword : urlPassword.Apart := apart_before '&' (by decide) (by decide)

theorem apart_odbcDriver : odbcDriver.Apart := apart_before '\x7d' (by decide) (by decide)

theorem apart_odbcDatabase : odbcDatabase.Apart := apart_before ';' (by decide) (by decide)

theorem apart_odbcUser : odbcUser.Apart := apart_before ';' (by decide) (by decide)

end Ending

namespace Connection

open Ending (numberText numberText_cut)

/-! ## Options -/

/-- Options that can be used, without a URL in their place. -/
structure Usable (c : Connection) : Prop where
  url : c.url = none
  valid : c.validate = .ok ()

/-- Two connections that reach the same database by the same login and driver. -/
structure SameOptions (c d : Connection) : Prop where
  host : c.host = d.host
  portNumber : c.portNumber = d.portNumber
  database : c.database = d.database
  user : c.user = d.user
  password : c.password = d.password
  odbcDriver : c.odbcDriver = d.odbcDriver

/-- No option has a key that ends it in a URL. -/
structure PlainInUrl (c : Connection) : Prop where
  host : Ending.urlHost.Free c.host.toList
  database : Ending.urlDatabase.Free c.database.toList
  user : ∀ user ∈ c.user, Ending.urlUser.Free user.toList
  password : ∀ password ∈ c.password, Ending.urlPassword.Free password.toList

/-- No option has a key that ends it in a text for ODBC. -/
structure PlainInOdbc (c : Connection) : Prop where
  odbcDriver : Ending.odbcDriver.Free c.odbcDriver.toList
  host : Ending.odbcHost.Free c.host.toList
  database : Ending.odbcDatabase.Free c.database.toList
  user : ∀ user ∈ c.user, Ending.odbcUser.Free user.toList

variable {c d : Connection}

theorem Usable.password_eq_none (hc : c.Usable) (huser : c.user = none) : c.password = none := by
  have hvalid := hc.valid
  unfold validate at hvalid
  split at hvalid
  · cases hvalid
  · simpa [trusted, hc.url, huser] using hvalid

/-- Other options can be used too, as long as there is no password without a user. -/
theorem Usable.change (hc : c.Usable) (hurl : d.url = none) (hdriver : d.driver = c.driver)
    (hlogin : d.user = none → d.password = none) : d.Usable := by
  refine ⟨hurl, ?_⟩
  have hvalid := hc.valid
  unfold validate at hvalid ⊢
  rw [hdriver]
  split at hvalid
  · cases hvalid
  · next hsupported =>
    rw [if_neg hsupported, if_neg]
    cases huser : d.user with
    | none => simp [trusted, huser, hlogin huser]
    | some user => simp [trusted, huser]

/-! ## Texts -/

/-- What follows the user in a URL. -/
def urlPassword (c : Connection) : List Char :=
  match c.password with
  | none => "&odbc_driver=".toList ++ c.odbcDriver.toList
  | some password => "&password=".toList ++
      (password.toList ++ ("&odbc_driver=".toList ++ c.odbcDriver.toList))

/-- What follows the database in a URL. -/
def urlLogin (c : Connection) : List Char :=
  match c.user with
  | none => "&trusted_connection=true&odbc_driver=".toList ++ c.odbcDriver.toList
  | some user => "&user id=".toList ++ (user.toList ++ c.urlPassword)

/-- What follows the user in a text for ODBC. -/
def odbcPassword (c : Connection) : List Char :=
  match c.password with
  | none => []
  | some password => ";PWD=".toList ++ password.toList

/-- What follows the database in a text for ODBC. -/
def odbcLogin (c : Connection) : List Char :=
  match c.user with
  | none => ";Trusted_Connection=yes".toList
  | some user => ";UID=".toList ++ (user.toList ++ c.odbcPassword)

/-- A URL without its scheme. -/
def urlText (c : Connection) : List Char :=
  c.host.toList ++
    (numberText ':' c.portNumber "?database=" ++ (c.database.toList ++ c.urlLogin))

/-- A text for ODBC without its first key. -/
def odbcText (c : Connection) : List Char :=
  c.odbcDriver.toList ++ ("\x7d;SERVER=".toList ++ (c.host.toList ++
    (numberText ',' c.portNumber ";DATABASE=" ++ (c.database.toList ++ c.odbcLogin))))

theorem toList_connectionString (h : c.url = none) :
    c.connectionString.toList = "sqlserver://".toList ++ c.urlText := by
  unfold connectionString login trusted urlText urlLogin urlPassword
  rw [h]
  cases c.user with
  | none => simp [numberText, String.intercalate_cons_cons]
  | some user => cases c.password <;> simp [numberText, String.intercalate_cons_cons]

theorem toList_odbcString (h : c.url = none) :
    c.odbcString.toList = "DRIVER=\x7b".toList ++ c.odbcText := by
  unfold odbcString login trusted odbcText odbcLogin odbcPassword
  rw [h]
  cases c.user with
  | none => simp [numberText, String.intercalate_cons_cons]
  | some user => cases c.password <;> simp [numberText, String.intercalate_cons_cons]

theorem connectionString_eq_iff (hc : c.url = none) (hd : d.url = none) :
    c.connectionString = d.connectionString ↔ c.urlText = d.urlText := by
  rw [← String.toList_inj, toList_connectionString hc, toList_connectionString hd,
    List.append_right_inj]

theorem odbcString_eq_iff (hc : c.url = none) (hd : d.url = none) :
    c.odbcString = d.odbcString ↔ c.odbcText = d.odbcText := by
  rw [← String.toList_inj, toList_odbcString hc, toList_odbcString hd, List.append_right_inj]

theorem follows_urlPassword (c : Connection) : Ending.urlUser.Follows c.urlPassword := by
  unfold urlPassword
  split
  · exact Ending.follows_before "&odbc_driver=" (by decide) _
  · exact Ending.follows_before "&password=" (by decide) _

theorem follows_urlLogin (c : Connection) : Ending.urlDatabase.Follows c.urlLogin := by
  unfold urlLogin
  split
  · exact Ending.follows_before "&trusted_connection=true&odbc_driver=" (by decide) _
  · exact Ending.follows_before "&user id=" (by decide) _

theorem follows_odbcPassword (c : Connection) : Ending.odbcUser.Follows c.odbcPassword := by
  unfold odbcPassword
  split
  · exact .inr rfl
  · exact Ending.follows_before ";PWD=" (by decide) _

theorem follows_odbcLogin (c : Connection) : Ending.odbcDatabase.Follows c.odbcLogin := by
  unfold odbcLogin
  split
  · exact .inr rfl
  · exact Ending.follows_before ";UID=" (by decide) _

/-! ## Plain options are told apart -/

theorem PlainInUrl.password_eq (hc : c.PlainInUrl) (hd : d.PlainInUrl)
    (h : c.urlPassword = d.urlPassword) :
    c.password = d.password ∧ c.odbcDriver = d.odbcDriver := by
  unfold urlPassword at h
  cases hcp : c.password with
  | none =>
    cases hdp : d.password with
    | none =>
      rw [hcp, hdp] at h
      exact ⟨rfl, String.toList_inj.1 (List.append_cancel_left h)⟩
    | some q => simp [hcp, hdp] at h
  | some p =>
    cases hdp : d.password with
    | none => simp [hcp, hdp] at h
    | some q =>
      rw [hcp, hdp] at h
      have hfollows (t : List Char) : Ending.urlPassword.Follows ("&odbc_driver=".toList ++ t) :=
        Ending.follows_before "&odbc_driver=" (by decide) t
      obtain ⟨hpassword, hdriver⟩ := Ending.apart_urlPassword.cut (hc.password p hcp)
        (hd.password q hdp) (hfollows _) (hfollows _) (List.append_cancel_left h)
      exact ⟨by rw [String.toList_inj.1 hpassword],
        String.toList_inj.1 (List.append_cancel_left hdriver)⟩

theorem PlainInUrl.login_eq (hc : c.PlainInUrl) (hd : d.PlainInUrl) (hcu : c.Usable)
    (hdu : d.Usable) (h : c.urlLogin = d.urlLogin) :
    c.user = d.user ∧ c.password = d.password ∧ c.odbcDriver = d.odbcDriver := by
  unfold urlLogin at h
  cases hcuser : c.user with
  | none =>
    cases hduser : d.user with
    | none =>
      rw [hcuser, hduser] at h
      rw [hcu.password_eq_none hcuser, hdu.password_eq_none hduser]
      exact ⟨rfl, rfl, String.toList_inj.1 (List.append_cancel_left h)⟩
    | some v => simp [hcuser, hduser] at h
  | some u =>
    cases hduser : d.user with
    | none => simp [hcuser, hduser] at h
    | some v =>
      rw [hcuser, hduser] at h
      obtain ⟨huser, hpassword⟩ := Ending.apart_urlUser.cut (hc.user u hcuser) (hd.user v hduser)
        c.follows_urlPassword d.follows_urlPassword (List.append_cancel_left h)
      rw [String.toList_inj.1 huser]
      exact ⟨rfl, hc.password_eq hd hpassword⟩

theorem PlainInUrl.sameOptions (hc : c.PlainInUrl) (hd : d.PlainInUrl) (hcu : c.Usable)
    (hdu : d.Usable) (h : c.connectionString = d.connectionString) : c.SameOptions d := by
  obtain ⟨hhost, hrest⟩ := Ending.apart_urlHost.cut hc.host hd.host
    (Ending.follows_numbered _ _ _ _) (Ending.follows_numbered _ _ _ _)
    ((connectionString_eq_iff hcu.url hdu.url).1 h)
  obtain ⟨hnumber, hrest⟩ := numberText_cut rfl (by decide) hrest
  obtain ⟨hdatabase, hlogin⟩ := Ending.apart_urlDatabase.cut hc.database hd.database
    c.follows_urlLogin d.follows_urlLogin hrest
  obtain ⟨huser, hpassword, hdriver⟩ := hc.login_eq hd hcu hdu hlogin
  exact ⟨String.toList_inj.1 hhost, hnumber, String.toList_inj.1 hdatabase, huser, hpassword,
    hdriver⟩

theorem odbcPassword_inj (h : c.odbcPassword = d.odbcPassword) : c.password = d.password := by
  unfold odbcPassword at h
  cases hcp : c.password with
  | none =>
    cases hdp : d.password with
    | none => rfl
    | some q => simp [hcp, hdp] at h
  | some p =>
    cases hdp : d.password with
    | none => simp [hcp, hdp] at h
    | some q =>
      rw [hcp, hdp] at h
      rw [String.toList_inj.1 (List.append_cancel_left h)]

theorem PlainInOdbc.login_eq (hc : c.PlainInOdbc) (hd : d.PlainInOdbc) (hcu : c.Usable)
    (hdu : d.Usable) (h : c.odbcLogin = d.odbcLogin) :
    c.user = d.user ∧ c.password = d.password := by
  unfold odbcLogin at h
  cases hcuser : c.user with
  | none =>
    cases hduser : d.user with
    | none =>
      rw [hcu.password_eq_none hcuser, hdu.password_eq_none hduser]
      exact ⟨rfl, rfl⟩
    | some v => simp [hcuser, hduser] at h
  | some u =>
    cases hduser : d.user with
    | none => simp [hcuser, hduser] at h
    | some v =>
      rw [hcuser, hduser] at h
      obtain ⟨huser, hpassword⟩ := Ending.apart_odbcUser.cut (hc.user u hcuser) (hd.user v hduser)
        c.follows_odbcPassword d.follows_odbcPassword (List.append_cancel_left h)
      rw [String.toList_inj.1 huser]
      exact ⟨rfl, odbcPassword_inj hpassword⟩

theorem PlainInOdbc.sameOptions (hc : c.PlainInOdbc) (hd : d.PlainInOdbc) (hcu : c.Usable)
    (hdu : d.Usable) (h : c.odbcString = d.odbcString) : c.SameOptions d := by
  have hfollows (t : List Char) : Ending.odbcDriver.Follows ("\x7d;SERVER=".toList ++ t) :=
    Ending.follows_before "\x7d;SERVER=" (by decide) t
  obtain ⟨hdriver, hrest⟩ := Ending.apart_odbcDriver.cut hc.odbcDriver hd.odbcDriver
    (hfollows _) (hfollows _) ((odbcString_eq_iff hcu.url hdu.url).1 h)
  obtain ⟨hhost, hrest⟩ := Ending.apart_odbcHost.cut hc.host hd.host
    (Ending.follows_numbered _ _ _ _) (Ending.follows_numbered _ _ _ _)
    (List.append_cancel_left hrest)
  obtain ⟨hnumber, hrest⟩ := numberText_cut rfl (by decide) hrest
  obtain ⟨hdatabase, hlogin⟩ := Ending.apart_odbcDatabase.cut hc.database hd.database
    c.follows_odbcLogin d.follows_odbcLogin hrest
  obtain ⟨huser, hpassword⟩ := hc.login_eq hd hcu hdu hlogin
  exact ⟨String.toList_inj.1 hhost, hnumber, String.toList_inj.1 hdatabase, huser, hpassword,
    String.toList_inj.1 hdriver⟩

/-! ## Every text is that of plain options -/

/-- The lengths of the options that can have a key, in their order in a URL. -/
def urlSize (c : Connection) : ℕ ×ₗ ℕ ×ₗ ℕ ×ₗ ℕ :=
  toLex (c.host.length, toLex (c.database.length,
    toLex ((c.user.getD "").length, (c.password.getD "").length)))

/-- The lengths of the options that can have a key, in their order in a text for ODBC. -/
def odbcSize (c : Connection) : ℕ ×ₗ ℕ ×ₗ ℕ ×ₗ ℕ :=
  toLex (c.odbcDriver.length, toLex (c.host.length,
    toLex (c.database.length, (c.user.getD "").length)))

/-- Other options, smaller ones, have the same text. -/
def HasSmaller (text : Connection → String) (size : Connection → ℕ ×ₗ ℕ ×ₗ ℕ ×ₗ ℕ)
    (c : Connection) : Prop :=
  ∃ d : Connection, d.Usable ∧ text d = text c ∧ size d < size c

theorem exists_urlPassword (c : Connection) :
    ∃ before, c.urlPassword = before ++ ("&odbc_driver=".toList ++ c.odbcDriver.toList) := by
  unfold urlPassword
  split
  · exact ⟨[], rfl⟩
  · exact ⟨_, (List.append_assoc ..).symm⟩

theorem exists_urlLogin (c : Connection) :
    ∃ before, c.urlLogin = before ++ ("&odbc_driver=".toList ++ c.odbcDriver.toList) := by
  unfold urlLogin
  split
  · exact ⟨"&trusted_connection=true".toList, by simp⟩
  · next u _ =>
    obtain ⟨before, hbefore⟩ := c.exists_urlPassword
    refine ⟨"&user id=".toList ++ (u.toList ++ before), ?_⟩
    rw [hbefore, List.append_assoc, List.append_assoc]

/-- A host can end before a number in it that the key of a database follows. -/
theorem exists_smaller_of_urlHost (hc : c.Usable) (h : ¬ Ending.urlHost.Free c.host.toList) :
    c.HasSmaller connectionString urlSize := by
  obtain ⟨start, -, after, ⟨n, rfl⟩, hhost, hshorter⟩ := Ending.apart_urlHost.exists_shorter h
  have hd : Usable { c with
      host := start
      portNumber := n
      database := String.ofList
        (after ++ (numberText ':' c.portNumber "?database=" ++ c.database.toList)) } :=
    hc.change hc.url rfl hc.password_eq_none
  refine ⟨_, hd, (connectionString_eq_iff hd.url hc.url).2 ?_, ?_⟩
  · simp only [urlText, hhost, String.toList_ofList, List.append_assoc]
    rfl
  · simp [urlSize, Prod.Lex.toLex_lt_toLex, hshorter]

/-- A database can end before a login in it. What follows is the user of that login, or it belongs
to the driver if the login is trusted. -/
theorem exists_smaller_of_urlDatabase (hc : c.Usable)
    (h : ¬ Ending.urlDatabase.Free c.database.toList) : c.HasSmaller connectionString urlSize := by
  obtain ⟨start, -, after, ⟨key, hkey, rfl⟩, hdatabase, hshorter⟩ :=
    Ending.apart_urlDatabase.exists_shorter h
  obtain ⟨login, hlogin⟩ := c.exists_urlLogin
  obtain rfl | rfl : key = "&user id=" ∨ key = "&trusted_connection=true&odbc_driver=" := by
    simpa using hkey
  · have hd : Usable { c with
        database := start
        user := some (String.ofList (after ++ login))
        password := none } := hc.change hc.url rfl fun _ => rfl
    refine ⟨_, hd, (connectionString_eq_iff hd.url hc.url).2 ?_, ?_⟩
    · rw [urlText, urlText, hdatabase, hlogin]
      simp only [urlLogin, urlPassword, String.toList_ofList, List.append_assoc]
    · simp [urlSize, Prod.Lex.toLex_lt_toLex, hshorter]
  · have hd : Usable { c with
        database := start
        user := none
        password := none
        odbcDriver := String.ofList (after ++ c.urlLogin) } := hc.change hc.url rfl fun _ => rfl
    refine ⟨_, hd, (connectionString_eq_iff hd.url hc.url).2 ?_, ?_⟩
    · rw [urlText, urlText, hdatabase]
      simp only [urlLogin, String.toList_ofList, List.append_assoc]
    · simp [urlSize, Prod.Lex.toLex_lt_toLex, hshorter]

/-- A user can end before a password in it, or before a driver. -/
theorem exists_smaller_of_urlUser (hc : c.Usable) {user : String} (huser : c.user = some user)
    (h : ¬ Ending.urlUser.Free user.toList) : c.HasSmaller connectionString urlSize := by
  obtain ⟨start, -, after, ⟨key, hkey, rfl⟩, hstart, hshorter⟩ :=
    Ending.apart_urlUser.exists_shorter h
  obtain ⟨password, hpassword⟩ := c.exists_urlPassword
  obtain rfl | rfl : key = "&password=" ∨ key = "&odbc_driver=" := by
    simpa using hkey
  · have hd : Usable { c with
        user := some start
        password := some (String.ofList (after ++ password)) } := hc.change hc.url rfl nofun
    refine ⟨_, hd, (connectionString_eq_iff hd.url hc.url).2 ?_, ?_⟩
    · simp only [urlText, urlLogin, huser, hstart, hpassword]
      simp only [urlPassword, String.toList_ofList, List.append_assoc]
    · simp [urlSize, huser, Prod.Lex.toLex_lt_toLex, hshorter]
  · have hd : Usable { c with
        user := some start
        password := none
        odbcDriver := String.ofList (after ++ c.urlPassword) } := hc.change hc.url rfl nofun
    refine ⟨_, hd, (connectionString_eq_iff hd.url hc.url).2 ?_, ?_⟩
    · simp only [urlText, urlLogin, huser, hstart]
      simp only [urlPassword, String.toList_ofList, List.append_assoc]
    · simp [urlSize, huser, Prod.Lex.toLex_lt_toLex, hshorter]

/-- A password can end before a driver in it. -/
theorem exists_smaller_of_urlPassword (hc : c.Usable) {password : String}
    (hpassword : c.password = some password) (h : ¬ Ending.urlPassword.Free password.toList) :
    c.HasSmaller connectionString urlSize := by
  obtain ⟨start, -, after, ⟨key, hkey, rfl⟩, hstart, hshorter⟩ :=
    Ending.apart_urlPassword.exists_shorter h
  obtain rfl : key = "&odbc_driver=" := by simpa using hkey
  cases huser : c.user with
  | none => simp [hc.password_eq_none huser] at hpassword
  | some user =>
    have hd : Usable { c with
        password := some start
        odbcDriver := String.ofList
          (after ++ ("&odbc_driver=".toList ++ c.odbcDriver.toList)) } :=
      hc.change hc.url rfl fun hnone => by simp [huser] at hnone
    refine ⟨_, hd, (connectionString_eq_iff hd.url hc.url).2 ?_, ?_⟩
    · simp only [urlText, urlLogin, huser, urlPassword, hpassword, hstart, String.toList_ofList,
        List.append_assoc]
    · simp [urlSize, hpassword, Prod.Lex.toLex_lt_toLex, hshorter]

theorem exists_smaller_in_url (hc : c.Usable) (h : ¬ c.PlainInUrl) :
    c.HasSmaller connectionString urlSize := by
  by_contra hnone
  refine h ⟨?_, ?_, ?_, ?_⟩
  · exact not_not.1 fun hhost => hnone (exists_smaller_of_urlHost hc hhost)
  · exact not_not.1 fun hdatabase => hnone (exists_smaller_of_urlDatabase hc hdatabase)
  · exact fun user huser => not_not.1 fun hfree =>
      hnone (exists_smaller_of_urlUser hc huser hfree)
  · exact fun password hpassword => not_not.1 fun hfree =>
      hnone (exists_smaller_of_urlPassword hc hpassword hfree)

/-- A driver can end before a host in it. -/
theorem exists_smaller_of_odbcDriver (hc : c.Usable)
    (h : ¬ Ending.odbcDriver.Free c.odbcDriver.toList) : c.HasSmaller odbcString odbcSize := by
  obtain ⟨start, -, after, ⟨key, hkey, rfl⟩, hdriver, hshorter⟩ :=
    Ending.apart_odbcDriver.exists_shorter h
  obtain rfl : key = "\x7d;SERVER=" := by simpa using hkey
  have hd : Usable { c with
      odbcDriver := start
      host := String.ofList (after ++ ("\x7d;SERVER=".toList ++ c.host.toList)) } :=
    hc.change hc.url rfl hc.password_eq_none
  refine ⟨_, hd, (odbcString_eq_iff hd.url hc.url).2 ?_, ?_⟩
  · simp only [odbcText, hdriver, String.toList_ofList, List.append_assoc]
    rfl
  · simp [odbcSize, Prod.Lex.toLex_lt_toLex, hshorter]

/-- A host can end before a number in it that the key of a database follows. -/
theorem exists_smaller_of_odbcHost (hc : c.Usable) (h : ¬ Ending.odbcHost.Free c.host.toList) :
    c.HasSmaller odbcString odbcSize := by
  obtain ⟨start, -, after, ⟨n, rfl⟩, hhost, hshorter⟩ := Ending.apart_odbcHost.exists_shorter h
  have hd : Usable { c with
      host := start
      portNumber := n
      database := String.ofList
        (after ++ (numberText ',' c.portNumber ";DATABASE=" ++ c.database.toList)) } :=
    hc.change hc.url rfl hc.password_eq_none
  refine ⟨_, hd, (odbcString_eq_iff hd.url hc.url).2 ?_, ?_⟩
  · simp only [odbcText, hhost, String.toList_ofList, List.append_assoc]
    rfl
  · simp [odbcSize, Prod.Lex.toLex_lt_toLex, hshorter]

/-- A database can end before a user in it, whose name then goes on to the end of the text. -/
theorem exists_smaller_of_odbcDatabase (hc : c.Usable)
    (h : ¬ Ending.odbcDatabase.Free c.database.toList) : c.HasSmaller odbcString odbcSize := by
  obtain ⟨start, -, after, ⟨key, hkey, rfl⟩, hdatabase, hshorter⟩ :=
    Ending.apart_odbcDatabase.exists_shorter h
  obtain rfl : key = ";UID=" := by simpa using hkey
  have hd : Usable { c with
      database := start
      user := some (String.ofList (after ++ c.odbcLogin))
      password := none } := hc.change hc.url rfl fun _ => rfl
  refine ⟨_, hd, (odbcString_eq_iff hd.url hc.url).2 ?_, ?_⟩
  · rw [odbcText, odbcText, hdatabase]
    simp only [odbcLogin, odbcPassword, String.toList_ofList, List.append_assoc, List.append_nil]
  · simp [odbcSize, Prod.Lex.toLex_lt_toLex, hshorter]

/-- A user can end before a password in it. -/
theorem exists_smaller_of_odbcUser (hc : c.Usable) {user : String} (huser : c.user = some user)
    (h : ¬ Ending.odbcUser.Free user.toList) : c.HasSmaller odbcString odbcSize := by
  obtain ⟨start, -, after, ⟨key, hkey, rfl⟩, hstart, hshorter⟩ :=
    Ending.apart_odbcUser.exists_shorter h
  obtain rfl : key = ";PWD=" := by simpa using hkey
  have hd : Usable { c with
      user := some start
      password := some (String.ofList (after ++ c.odbcPassword)) } := hc.change hc.url rfl nofun
  refine ⟨_, hd, (odbcString_eq_iff hd.url hc.url).2 ?_, ?_⟩
  · simp only [odbcText, odbcLogin, huser, hstart]
    simp only [odbcPassword, String.toList_ofList, List.append_assoc]
  · simp [odbcSize, huser, Prod.Lex.toLex_lt_toLex, hshorter]

theorem exists_smaller_in_odbc (hc : c.Usable) (h : ¬ c.PlainInOdbc) :
    c.HasSmaller odbcString odbcSize := by
  by_contra hnone
  refine h ⟨?_, ?_, ?_, ?_⟩
  · exact not_not.1 fun hdriver => hnone (exists_smaller_of_odbcDriver hc hdriver)
  · exact not_not.1 fun hhost => hnone (exists_smaller_of_odbcHost hc hhost)
  · exact not_not.1 fun hdatabase => hnone (exists_smaller_of_odbcDatabase hc hdatabase)
  · exact fun user huser => not_not.1 fun hfree =>
      hnone (exists_smaller_of_odbcUser hc huser hfree)

/-- Options that are not plain can be made smaller, which comes to an end. -/
theorem exists_plain {Plain : Connection → Prop} {text : Connection → String}
    {size : Connection → ℕ ×ₗ ℕ ×ₗ ℕ ×ₗ ℕ}
    (hstep : ∀ {c : Connection}, c.Usable → ¬ Plain c → c.HasSmaller text size)
    (hc : c.Usable) : ∃ d : Connection, d.Usable ∧ Plain d ∧ text d = text c := by
  induction hsize : size c using WellFoundedLT.induction generalizing c with
  | ind n ih =>
    subst hsize
    by_cases hplain : Plain c
    · exact ⟨c, hc, hplain, rfl⟩
    · obtain ⟨d, hd, htext, hsmaller⟩ := hstep hc hplain
      obtain ⟨b, hb, hplain, htext'⟩ := ih _ hsmaller hd rfl
      exact ⟨b, hb, hplain, htext'.trans htext⟩

/-- Options in which no key stands that could end them are told apart by the texts of connections,
by a URL as well as by a text for ODBC. Other options have the text of such ones. -/
theorem strings_tell_plain_options_apart (c d : Connection) (hc : c.Usable) (hd : d.Usable) :
    (c.PlainInUrl → d.PlainInUrl → c.connectionString = d.connectionString → c.SameOptions d) ∧
    (c.PlainInOdbc → d.PlainInOdbc → c.odbcString = d.odbcString → c.SameOptions d) ∧
    (∃ b : Connection, b.Usable ∧ b.PlainInUrl ∧ b.connectionString = c.connectionString) ∧
    (∃ b : Connection, b.Usable ∧ b.PlainInOdbc ∧ b.odbcString = c.odbcString) := by
  refine ⟨?_, ?_, ?_, ?_⟩
  · exact fun hplain hplain' h => hplain.sameOptions hplain' hc hd h
  · exact fun hplain hplain' h => hplain.sameOptions hplain' hc hd h
  · exact exists_plain exists_smaller_in_url hc
  · exact exists_plain exists_smaller_in_odbc hc

/-- Options with characters that separate options, but without keys, written by two names of the
driver. -/
theorem strings_tell_plain_options_apart_of_separators :
    let c : Connection :=
      { host := "db:1", database := "a&user=b", user := some "sa;x",
        password := some "p&password=q;PWD=r" }
    let d : Connection := { c with driver := "SQLSERVER" }
    c.Usable ∧ d.Usable ∧ c.PlainInUrl ∧ d.PlainInUrl ∧ c.PlainInOdbc ∧ d.PlainInOdbc ∧
      c.SameOptions d := by
  intro c d
  have hc : c.Usable := ⟨rfl, by decide⟩
  have hd : d.Usable := ⟨rfl, by decide⟩
  have hurl : c.PlainInUrl := by
    refine ⟨Ending.free_numbered (by decide), Ending.free_before (by decide), ?_, ?_⟩
    · rintro _ ⟨⟩
      exact Ending.free_before (by decide)
    · rintro _ ⟨⟩
      exact Ending.free_before (by decide)
  have hodbc : c.PlainInOdbc := by
    refine ⟨Ending.free_before (by decide), Ending.free_numbered (by decide),
      Ending.free_before (by decide), ?_⟩
    rintro _ ⟨⟩
    exact Ending.free_before (by decide)
  have hurl' : d.PlainInUrl := ⟨hurl.host, hurl.database, hurl.user, hurl.password⟩
  have hodbc' : d.PlainInOdbc := ⟨hodbc.odbcDriver, hodbc.host, hodbc.database, hodbc.user⟩
  have htheorem := strings_tell_plain_options_apart c d hc hd
  exact ⟨hc, hd, hurl, hurl', hodbc, hodbc', htheorem.1 hurl hurl' rfl⟩

/-- A user can bring a password, and a database a login of its own in place of the trusted one. -/
theorem strings_confuse_options :
    (¬ ∀ c d : Connection, c.Usable → d.Usable → c.connectionString = d.connectionString →
      c.SameOptions d) ∧
    (¬ ∀ c d : Connection, c.Usable → d.Usable → c.odbcString = d.odbcString →
      c.SameOptions d) := by
  constructor
  · intro h
    have hsame := h { user := some "sa&password=x" } { user := some "sa", password := some "x" }
      ⟨rfl, by decide⟩ ⟨rfl, by decide⟩ (by decide)
    exact absurd hsame.password (by decide)
  · intro h
    have hsame := h { database := "a;UID=b" }
      { database := "a", user := some "b;Trusted_Connection=yes" }
      ⟨rfl, by decide⟩ ⟨rfl, by decide⟩ (by decide)
    exact absurd hsame.user (by decide)

end Connection

end TransactSql
