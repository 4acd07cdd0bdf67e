import EquityScreen.Table.View
import EquityScreen.Proofs.Trimming
import Mathlib.Tactic.Common
import Mathlib.Tactic.SplitIfs

/-! Pages cut a list into consecutive pieces, and every page number on offer is
one of an existing page. The bound on the length is the one of the machine: with
it, positions that stop at the greatest word still lie past the last row. -/
namespace EquityScreen

/-- A page lies before the last one exactly if rows are left after it. -/
theorem lt_totalPages_iff {page count pageSize : Nat} (hSize : 1 ≤ pageSize) :
    page < totalPages count pageSize ↔ page * pageSize < count := by
  rw [totalPages, if_neg (by omega), ← Nat.add_one_le_iff, Nat.le_div_iff_mul_le hSize,
    Nat.add_mul]
  omega

theorem totalPages_le (count pageSize : Nat) : totalPages count pageSize ≤ count := by
  rcases Nat.eq_zero_or_pos pageSize with rfl | hSize
  · exact Nat.zero_le count
  · by_contra hLess
    have hRows := (lt_totalPages_iff hSize).mp (Nat.lt_of_not_le hLess)
    have hPages := Nat.le_mul_of_pos_right count hSize
    omega

/-- A page as a piece of the list, computed without any bound on positions. -/
theorem paginate_eq {rows : List α} {page pageSize : Nat} (hRows : rows.length < 2 ^ 64)
    (hPage : 1 ≤ page) (hSize : 1 ≤ pageSize) :
    paginate rows page pageSize = (rows.drop ((page - 1) * pageSize)).take pageSize := by
  have hExists : ¬(page = 0 ∨ pageSize = 0) := by omega
  have hWord : maxWord = 2 ^ 64 - 1 := rfl
  rw [paginate, if_neg hExists]
  generalize (page - 1) * pageSize = start
  dsimp only
  split_ifs with hPast
  · rw [List.drop_eq_nil_of_le (by omega), List.take_nil]
  · have hStart : min maxWord start = start := by omega
    rw [hStart, List.take_eq_take_min (i := pageSize), List.length_drop]
    congr 1
    omega

/-- Enough consecutive pages hold everything from the first of them on. -/
theorem flatMap_paginate {rows : List α} {pageSize : Nat} (hRows : rows.length < 2 ^ 64)
    (hSize : 1 ≤ pageSize) {page count : Nat} (hPage : 1 ≤ page)
    (hEnough : rows.length ≤ (page - 1 + count) * pageSize) :
    (List.range' page count).flatMap (fun n => paginate rows n pageSize) =
      rows.drop ((page - 1) * pageSize) := by
  induction count generalizing page with
  | zero =>
      rw [Nat.add_zero] at hEnough
      rw [List.drop_eq_nil_of_le hEnough, List.range'_zero, List.flatMap_nil]
  | succ count ih =>
      have hShift : page - 1 + (count + 1) = page + 1 - 1 + count := by omega
      have hNext : (page + 1 - 1) * pageSize = (page - 1) * pageSize + pageSize := by
        rw [← Nat.succ_mul]
        congr 1
        omega
      rw [List.range'_succ, List.flatMap_cons, ih (by omega) (hShift ▸ hEnough),
        paginate_eq hRows hPage hSize, hNext, ← List.drop_drop, List.take_append_drop]

/-- All pages together hold every row once and in order. -/
theorem flatMap_pages {rows : List α} {pageSize : Nat} (hRows : rows.length < 2 ^ 64)
    (hSize : 1 ≤ pageSize) :
    (List.range' 1 (totalPages rows.length pageSize)).flatMap
      (fun page => paginate rows page pageSize) = rows := by
  have hLast : ¬totalPages rows.length pageSize * pageSize < rows.length :=
    (lt_totalPages_iff hSize).not.mp (Nat.lt_irrefl _)
  have hAll := flatMap_paginate hRows hSize (le_refl 1)
    (show rows.length ≤ (1 - 1 + totalPages rows.length pageSize) * pageSize by
      rw [Nat.sub_self, Nat.zero_add]
      exact Nat.le_of_not_lt hLast)
  rwa [Nat.sub_self, Nat.zero_mul, List.drop_zero] at hAll

/-- Every row is on one of the pages. -/
theorem exists_mem_paginate {rows : List α} {pageSize : Nat} (hRows : rows.length < 2 ^ 64)
    (hSize : 1 ≤ pageSize) {row : α} (h : row ∈ rows) :
    ∃ page, 1 ≤ page ∧ page ≤ totalPages rows.length pageSize ∧
      row ∈ paginate rows page pageSize := by
  rw [← flatMap_pages hRows hSize] at h
  obtain ⟨page, hPage, hRow⟩ := List.mem_flatMap.mp h
  rw [List.mem_range'_1] at hPage
  exact ⟨page, hPage.1, by omega, hRow⟩

/-- The list of page links names existing pages only. -/
theorem mem_pageNumbers_bounds {current total n : Nat}
    (h : PageItem.page n ∈ pageNumbers current total) : 1 ≤ n ∧ n ≤ total := by
  by_cases hShort : total ≤ maxFullPageList
  · rw [pageNumbers, if_pos hShort, List.mem_map] at h
    obtain ⟨m, hRange, hSame⟩ := h
    rw [List.mem_range'_1, PageItem.page.inj hSame] at hRange
    omega
  · rw [pageNumbers, if_neg hShort] at h
    simp only [List.mem_append, List.mem_cons, List.mem_map, List.mem_range'_1,
      List.mem_ite_nil_right, List.not_mem_nil, PageItem.page.injEq, exists_eq_right, reduceCtorEq,
      or_false, and_false] at h
    simp only [maxFullPageList] at hShort
    omega

theorem sortRows_perm (rows : List Stock) (sort : Option SortConfig) :
    (sortRows rows sort).Perm rows := by
  cases sort with
  | none => exact .refl rows
  | some sort => exact List.mergeSort_perm rows _

namespace TableState

theorem length_visibleRows_le (t : TableState) (rows : List Stock) :
    (t.visibleRows rows).length ≤ rows.length := by
  have hSearch : (searchByTicker rows t.search.toList).length ≤ rows.length := by
    unfold searchByTicker
    dsimp only
    split_ifs
    · exact le_refl _
    · exact List.length_filter_le _ _
  unfold visibleRows sortRows
  split
  · exact hSearch
  · rwa [List.length_mergeSort]

/-- Without a search all rows are paged over, in the chosen order. -/
theorem visibleRows_unsearched (sort : Option SortConfig) (page : Nat) (rows : List Stock) :
    TableState.visibleRows ⟨sort, page, ""⟩ rows = sortRows rows sort := by
  have hNeedle : (Text.lowercase (Text.trim "".toList)).isEmpty = true := by decide
  rw [visibleRows, searchByTicker, hNeedle, if_pos rfl]

/-- Neither the page nor white space around the search changes what is paged over. -/
theorem visibleRows_trimmed (t : TableState) (page : Nat) (rows : List Stock) :
    TableState.visibleRows ⟨t.sort, page, Text.trimString t.search⟩ rows =
      t.visibleRows rows := by
  simp only [visibleRows, searchByTicker, Text.trimString, String.toList_ofList, Text.trim_trim]

end TableState

end EquityScreen
