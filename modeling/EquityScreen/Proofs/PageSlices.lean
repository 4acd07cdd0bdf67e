import EquityScreen.Proofs.WordPaging

/-! The pages of a list, exactly. A page is the part of the list that unbounded arithmetic names,
whatever the machine does at the greatest word, and the pages that exist are full up to the
last one and make up the list. -/
namespace EquityScreen

variable {α : Type}

/-- The elements at the positions from one whole number up to another. -/
def elementsBetween (xs : List α) (start stop : Int) : List α :=
  (xs.zipIdx.filter fun x => start ≤ (x.2 : Int) ∧ (x.2 : Int) < stop).map Prod.fst

/-- Positions counted from any number on. The induction goes along the list while the number grows
past both ends of the part that is kept. -/
theorem map_fst_filter_zipIdx (xs : List α) (offset start size : Nat) :
    ((xs.zipIdx offset).filter fun x => start ≤ x.2 ∧ x.2 < start + size).map Prod.fst =
      (xs.drop (start - offset)).take (size - (offset - start)) := by
  induction xs generalizing offset with
  | nil => simp
  | cons x xs ih =>
      rw [List.zipIdx_cons, List.filter_cons]
      by_cases hBefore : offset < start
      · have hDrop : start - offset = start - (offset + 1) + 1 := by omega
        rw [if_neg (by simp; omega), ih, hDrop, List.drop_succ_cons]
        congr 1
        omega
      · have hDrop (n : Nat) (h : offset ≤ n) : start - n = 0 := by omega
        rw [hDrop offset (Nat.le_refl _), List.drop_zero]
        by_cases hInside : offset < start + size
        · have hTake : size - (offset - start) = size - (offset + 1 - start) + 1 := by omega
          rw [if_pos (by simp; omega), List.map_cons, ih, hDrop _ (Nat.le_succ _), List.drop_zero,
            hTake, List.take_succ_cons]
        · have hTake (n : Nat) (h : offset ≤ n) : size - (n - start) = 0 := by omega
          rw [if_neg (by simp; omega), ih, hTake _ (Nat.le_succ _), hTake _ (Nat.le_refl _),
            List.take_zero, List.take_zero]

theorem elementsBetween_eq (xs : List α) (start size : Nat) :
    elementsBetween xs start (start + size) = (xs.drop start).take size := by
  have hPart := map_fst_filter_zipIdx xs 0 start size
  rw [Nat.sub_zero, Nat.zero_sub, Nat.sub_zero] at hPart
  rw [← hPart, elementsBetween]
  norm_cast

theorem elementsBetween_of_le (xs : List α) {start stop : Int} (h : stop ≤ max start 0) :
    elementsBetween xs start stop = [] := by
  have hNone : xs.zipIdx.filter (fun x => start ≤ (x.2 : Int) ∧ (x.2 : Int) < stop) = [] := by
    rw [List.filter_eq_nil_iff]
    intro x _
    simp only [decide_eq_true_eq]
    omega
  rw [elementsBetween, hNone, List.map_nil]

variable {rows : List α} {page pageSize : Nat}

/-- A page holds the rows at the positions that its number and the page size multiply to. Where one
of them is zero there are no such positions. -/
theorem paginate_eq_elementsBetween (hRows : rows.length < 2 ^ 64) (page pageSize : Nat) :
    paginate rows page pageSize =
      elementsBetween rows (((page : Int) - 1) * pageSize) ((page : Int) * pageSize) := by
  rcases Nat.eq_zero_or_pos page with rfl | hPage
  · have hNone : ((0 : Nat) : Int) * pageSize ≤ max ((((0 : Nat) : Int) - 1) * pageSize) 0 := by
      rw [Int.natCast_zero, Int.zero_mul]
      exact Int.le_max_right _ _
    rw [elementsBetween_of_le rows hNone]
    rfl
  rcases Nat.eq_zero_or_pos pageSize with rfl | hSize
  · rw [elementsBetween_of_le rows (by simp), paginate, if_pos (.inr rfl)]
  · have hStart : ((page : Int) - 1) * pageSize = ((page - 1) * pageSize : Nat) := by
      rw [Int.natCast_mul, Int.natCast_sub hPage, Int.natCast_one]
    have hStop : (page : Int) * pageSize = ((page - 1) * pageSize : Nat) + (pageSize : Int) := by
      rw [← hStart, Int.sub_mul, Int.one_mul, Int.sub_add_cancel]
    rw [paginate_eq hRows hPage hSize, hStart, hStop, elementsBetween_eq]

/-- A page before the last one is full. -/
theorem length_paginate (hRows : rows.length < 2 ^ 64) (hSize : 1 ≤ pageSize) (hPage : 1 ≤ page)
    (hMore : page < totalPages rows.length pageSize) :
    (paginate rows page pageSize).length = pageSize := by
  have hLeft : page * pageSize < rows.length := (lt_totalPages_iff hSize).mp hMore
  have hStop : page * pageSize = (page - 1) * pageSize + pageSize := by
    rw [← Nat.succ_mul]
    congr 1
    omega
  rw [paginate_eq hRows hPage hSize, List.length_take, List.length_drop]
  omega

/-- Exactly the pages that are counted hold rows. -/
theorem paginate_ne_nil_iff (hRows : rows.length < 2 ^ 64) (page pageSize : Nat) :
    paginate rows page pageSize ≠ [] ↔ 1 ≤ page ∧ page ≤ totalPages rows.length pageSize := by
  rcases Nat.eq_zero_or_pos page with rfl | hPage
  · simp [paginate]
  rcases Nat.eq_zero_or_pos pageSize with rfl | hSize
  · simp [paginate, totalPages]
    omega
  · have hLast : page - 1 < totalPages rows.length pageSize ↔ (page - 1) * pageSize < rows.length :=
      lt_totalPages_iff hSize
    have hSome : paginate rows page pageSize ≠ [] ↔ (page - 1) * pageSize < rows.length := by
      rw [paginate_eq hRows hPage hSize, ← List.length_pos_iff, List.length_take, List.length_drop]
      omega
    rw [hSome, ← hLast]
    omega

/-- What the pages of a list must be for a page size. -/
structure ExactPages (rows : List α) (pageSize : UInt64) : Prop where
  counted : (Words.totalPages (.ofNat rows.length) pageSize).map UInt64.toNat =
    .ok (totalPages rows.length pageSize.toNat)
  unstopped : ∀ page : UInt64,
    Words.paginate rows page pageSize = .ok (paginate rows page.toNat pageSize.toNat)
  positions : ∀ page : UInt64, paginate rows page.toNat pageSize.toNat =
    elementsBetween rows (((page.toNat : Int) - 1) * pageSize.toNat) (page.toNat * pageSize.toNat)
  nonempty : ∀ page : UInt64, paginate rows page.toNat pageSize.toNat ≠ [] ↔
    1 ≤ page.toNat ∧ page.toNat ≤ totalPages rows.length pageSize.toNat
  whole : 1 ≤ pageSize.toNat →
    (List.range' 1 (totalPages rows.length pageSize.toNat)).flatMap
      (fun page => paginate rows page pageSize.toNat) = rows
  full : 1 ≤ pageSize.toNat → ∀ page, 1 ≤ page →
    page < totalPages rows.length pageSize.toNat →
    (paginate rows page pageSize.toNat).length = pageSize.toNat

/-- Pages are exact for every page size, every page number and every list that a machine can
hold. -/
theorem exact_pages (hRows : rows.length < 2 ^ 64) (pageSize : UInt64) :
    ExactPages rows pageSize where
  counted := by
    rw [Words.totalPages_eq, UInt64.toNat_ofNat_of_lt' hRows]
  unstopped := fun page => Words.paginate_eq hRows page pageSize
  positions := fun page => paginate_eq_elementsBetween hRows page.toNat pageSize.toNat
  nonempty := fun page => paginate_ne_nil_iff hRows page.toNat pageSize.toNat
  whole := flatMap_pages hRows
  full := fun hSize _ => length_paginate hRows hSize

/-- Three rows on pages of the greatest size: where a product or a sum would pass the words. -/
theorem exact_pages_greatest :
    ["A", "B", "C"].length < 2 ^ 64 ∧ ExactPages ["A", "B", "C"] Words.greatest := by
  have hRows : ["A", "B", "C"].length < 2 ^ 64 := by decide
  exact ⟨hRows, exact_pages hRows Words.greatest⟩

end EquityScreen
