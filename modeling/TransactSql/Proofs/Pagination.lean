import Mathlib
import TransactSql.Proofs.Preparation
import TransactSql.Proofs.Traverse

/-!
# The numbers of a page

The text of a relation with a limit ends with its page, where the count of rows is the least of all
limits that were set and the offset is that of the relation (`page_ends_text`). Both numbers are
written as signed numbers with the same bits, so they stand as they are only below `2 ^ 63`. From
there on they have a minus sign: a limit that is meant to be no limit, the largest count there is,
is written as `-1` (`largest_limit_negative`).
-/

namespace TransactSql

open Sql (Select Paging Token Dialect render offsetFetch rowCount)

namespace Sql

/-- A count of rows as it is written: its decimal numeral below `2 ^ 63`, and from there on what is
missing to `2 ^ 64`, after a minus sign. -/
def countText (n : UInt64) : String :=
  if n.toNat < 2 ^ 63 then toString n.toNat else "-" ++ toString (2 ^ 64 - n.toNat)

theorem text_rowCount (d : Dialect) (n : UInt64) : (rowCount n).text d = countText n := by
  have hbits : n.toInt64.toInt = n.toBitVec.toInt := rfl
  have hnat : n.toBitVec.toNat = n.toNat := rfl
  show toString n.toInt64.toInt = countText n
  rw [hbits, BitVec.toInt_eq_toNat_cond, hnat]
  unfold countText
  by_cases hlt : n.toNat < 2 ^ 63
  · rw [if_pos hlt, if_pos (by omega)]
    rfl
  · -- the signed number is negative, and its text is that of `missing + 1` after the sign
    have hbound := n.toNat_lt
    obtain ⟨missing, hmissing⟩ : ∃ missing, 2 ^ 64 - n.toNat = missing + 1 :=
      ⟨2 ^ 64 - n.toNat - 1, by omega⟩
    have hnegative : (n.toNat : Int) - ((2 ^ 64 : Nat) : Int) = Int.negSucc missing := by omega
    rw [if_neg hlt, if_neg (by omega), hnegative, hmissing]
    rfl

theorem render_offsetFetch (limit offset : UInt64) :
    render .tsql (offsetFetch (some limit) (some offset)) =
      "OFFSET " ++ countText offset ++ " ROWS FETCH NEXT " ++ countText limit ++ " ROWS ONLY" := by
  have hbefore : render .tsql [.keyword .OFFSET, .space] = "OFFSET " := by decide
  have hbetween : render .tsql [.space, .keyword .ROWS, .space, .keyword .FETCH, .space,
      .keyword .NEXT, .space] = " ROWS FETCH NEXT " := by decide
  have hafter : render .tsql [.space, .keyword .ROWS, .space, .keyword .ONLY] = " ROWS ONLY" := by
    decide
  have hparts : offsetFetch (some limit) (some offset) =
      [Token.keyword .OFFSET, .space] ++ [rowCount offset] ++ [Token.space, .keyword .ROWS, .space,
        .keyword .FETCH, .space, .keyword .NEXT, .space] ++ [rowCount limit]
        ++ [Token.space, .keyword .ROWS, .space, .keyword .ONLY] := rfl
  have hcount : ∀ n, render .tsql [rowCount n] = countText n := by
    intro n
    rw [render_cons, text_rowCount]
    exact String.append_empty
  rw [hparts, render_append, render_append, render_append, render_append, hbefore, hbetween, hafter,
    hcount, hcount]

/-- The text of a statement with limit and offset ends with them. -/
theorem Select.sql_ends_with_page {s : Select} {limit offset : UInt64}
    (h : s.paging = some ⟨some limit, some offset⟩) :
    ∃ start, s.sql .tsql = start ++ "OFFSET " ++ countText offset ++ " ROWS FETCH NEXT "
      ++ countText limit ++ " ROWS ONLY" := by
  refine ⟨render .tsql
    (s.unordered.tokens .tsql ++ clause .ORDER_BY s.orderKeys ++ [Token.newline]), ?_⟩
  have htokens := Select.tokens_of_paging h
  unfold Select.sql
  rw [htokens, List.append_cons, render_append, render_offsetFetch]
  simp only [String.append_assoc]

end Sql

/-! ## Limits of relations -/

/-- The limit of the outermost selection or aggregation. -/
def Relation.outermostLimit : Relation → Option Limit
  | selection _ parts => parts.limit
  | aggregation _ parts => parts.limit
  | table _ | join .. => none

theorem Relation.outermostLimit_mapExpressions (f : Scalar → Scalar) (r : Relation) :
    (r.mapExpressions f).outermostLimit = r.outermostLimit := by
  cases r with
  | table t => rfl
  | selection source parts => rw [mapExpressions_selection]; rfl
  | aggregation source parts => rw [mapExpressions_aggregation]; rfl
  | join left right kind predicates => rw [mapExpressions_join]; rfl

theorem Statement.paging_of_ofRelation {r : Relation} {limit : Limit} {s : Select}
    (hlimit : r.outermostLimit = some limit) (h : (ofRelation r).result = .ok s) :
    s.paging = some ⟨some limit.count, some limit.offset⟩ := by
  unfold ofRelation at h
  split at h
  · next parts =>
    have hparts : parts.limit = some limit := hlimit
    rw [Lowering.result_bind_eq_ok] at h
    obtain ⟨src, -, h⟩ := h
    obtain ⟨items, t, orderBy, -, -, -, rfl⟩ := result_selection.1 h
    rw [hparts]
    rfl
  · next parts =>
    have hparts : parts.limit = some limit := hlimit
    split at h
    · cases h
    · rw [Lowering.result_bind_eq_ok] at h
      obtain ⟨src, -, h⟩ := h
      unfold aggregation at h
      simp only [Lowering.result_bind_eq_ok, Lowering.result_pure, Except.ok.injEq] at h
      obtain ⟨t, -, keys, -, metrics, -, u, -, orderBy, -, rfl⟩ := h
      rw [hparts]
      rfl
  · next hselection haggregation =>
    cases r with
    | table t => cases hlimit
    | join left right kind predicates => cases hlimit
    | selection source parts => exact absurd rfl (hselection source parts)
    | aggregation source parts => exact absurd rfl (haggregation source parts)

theorem paging_of_compile {r : Relation} {limit : Limit} {params : Params} {c : Compiled}
    (hlimit : r.outermostLimit = some limit) (h : compile (.relation r) params = .ok c) :
    c.select.paging = some ⟨some limit.count, some limit.offset⟩ := by
  obtain ⟨hs, -⟩ := compile_eq_ok.1 h
  refine Statement.paging_of_ofRelation ?_ hs
  exact (Relation.outermostLimit_mapExpressions _ r).trans hlimit

/-- Setting limits one after the other sets the page only. -/
theorem Compiled.foldl_withLimit (c : Compiled) (limits : List UInt64) :
    limits.foldl withLimit c =
      { c with select.paging := limits.foldl lowered c.select.paging } := by
  induction limits generalizing c with
  | nil => rfl
  | cons n limits ih => rw [List.foldl_cons, ih, withLimit_eq, List.foldl_cons]

/-- The page after limits are set has the least limit and the offset that it had. -/
theorem Compiled.paging_foldl_withLimit {c : Compiled} {limit offset : UInt64}
    (h : c.select.paging = some ⟨some limit, some offset⟩) (limits : List UInt64) :
    ∃ least ∈ limit :: limits, (∀ n ∈ limit :: limits, least ≤ n) ∧
      (limits.foldl withLimit c).select.paging = some ⟨some least, some offset⟩ := by
  rw [foldl_withLimit]
  dsimp only
  have hlimit := limit_foldl_lowered c.select.paging limits
  have hoffset := offset_foldl_lowered c.select.paging limits
  rw [h] at hlimit hoffset ⊢
  -- every further limit only lowers the one before, so the last one is the minimum of them all
  obtain ⟨least, hleast⟩ : ∃ least, (limit :: limits).min? = some least := ⟨_, rfl⟩
  obtain ⟨hmem, hle⟩ := List.min?_eq_some_iff.1 hleast
  refine ⟨least, hmem, hle, ?_⟩
  obtain ⟨page, hpage, hpageLimit⟩ := Option.bind_eq_some_iff.1 (hlimit.trans hleast)
  rw [hpage] at hoffset ⊢
  have hpageOffset : page.offset = some offset := hoffset
  rw [← hpageLimit, ← hpageOffset]

/-- The text of a relation with limit and offset ends with its page, after any number of further
limits: the offset is that of the relation, the limit the least of all. Both are written as their
decimal numerals below `2 ^ 63` only. -/
theorem page_ends_text (r : Relation) (limit : Limit) (params : Params) (c : Compiled)
    (limits : List UInt64) (hlimit : r.outermostLimit = some limit)
    (h : compile (.relation r) params = .ok c) :
    ∃ least ∈ limit.count :: limits, (∀ n ∈ limit.count :: limits, least ≤ n) ∧
      ∃ start, (limits.foldl Compiled.withLimit c).sql =
        start ++ "OFFSET " ++ Sql.countText limit.offset ++ " ROWS FETCH NEXT "
          ++ Sql.countText least ++ " ROWS ONLY" := by
  have hpaging := paging_of_compile hlimit h
  obtain ⟨least, hmem, hle, hleast⟩ := Compiled.paging_foldl_withLimit hpaging limits
  exact ⟨least, hmem, hle, Sql.Select.sql_ends_with_page hleast⟩

/-- The largest count as a limit stands for no limit, and lower limits follow; the offset is the
largest that is written as it is. -/
theorem page_ends_text_of_lower_limits :
    let r : Relation := .selection (.table ⟨⟨none, "t"⟩, []⟩)
      { limit := some ⟨18446744073709551615, 9223372036854775807⟩ }
    ∃ c, compile (.relation r) .empty = .ok c ∧
      r.outermostLimit = some ⟨18446744073709551615, 9223372036854775807⟩ ∧
      ∃ start, ([9, 7, 8].foldl Compiled.withLimit c).sql =
        start ++ "OFFSET 9223372036854775807 ROWS FETCH NEXT 7 ROWS ONLY" := by
  intro r
  obtain ⟨c, hc⟩ : ∃ c, compile (.relation r) .empty = .ok c := ⟨_, rfl⟩
  obtain ⟨least, hmem, hle, start, hsql⟩ := page_ends_text r _ .empty c [9, 7, 8] rfl hc
  obtain rfl : least = 7 := by
    have hseven := hle 7 (by simp)
    simp only [List.mem_cons, List.not_mem_nil, or_false] at hmem
    rcases hmem with rfl | rfl | rfl | rfl
    · exact absurd hseven (by decide)
    · exact absurd hseven (by decide)
    · rfl
    · exact absurd hseven (by decide)
  refine ⟨c, hc, rfl, start, ?_⟩
  have hpage : "OFFSET " ++ (Sql.countText 9223372036854775807 ++ (" ROWS FETCH NEXT " ++
      (Sql.countText 7 ++ " ROWS ONLY"))) =
      "OFFSET 9223372036854775807 ROWS FETCH NEXT 7 ROWS ONLY" := by decide
  rw [hsql, ← hpage]
  simp only [String.append_assoc]

/-- The largest count as a limit is written as `-1`, and not as the number that it is. -/
theorem largest_limit_negative :
    let r : Relation := .selection (.table ⟨⟨none, "t"⟩, []⟩)
      { limit := some ⟨18446744073709551615, 0⟩ }
    ∃ c, compile (.relation r) .empty = .ok c ∧
      (∃ start, c.sql = start ++ "OFFSET 0 ROWS FETCH NEXT -1 ROWS ONLY") ∧
      ¬∃ start, c.sql = start ++ "OFFSET 0 ROWS FETCH NEXT 18446744073709551615 ROWS ONLY" := by
  intro r
  have hc : ∃ c, compile (.relation r) .empty = .ok c ∧
      c.sql = "SELECT\n  [t0].*\nFROM [t] AS [t0]\nORDER BY (SELECT NULL)\n" ++
        "OFFSET 0 ROWS FETCH NEXT -1 ROWS ONLY" := ⟨_, rfl, by decide⟩
  obtain ⟨c, hc, hsql⟩ := hc
  refine ⟨c, hc, ⟨_, hsql⟩, ?_⟩
  rintro ⟨start, hstart⟩
  have hsuffix : "OFFSET 0 ROWS FETCH NEXT 18446744073709551615 ROWS ONLY".toList <:+
      c.sql.toList := ⟨start.toList, by rw [hstart, String.toList_append]⟩
  rw [hsql] at hsuffix
  exact absurd hsuffix (by decide)

end TransactSql
