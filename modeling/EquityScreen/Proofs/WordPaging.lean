import EquityScreen.Table.Words
import EquityScreen.Proofs.Paging

/-! Paging by 64-bit words comes to what paging by numbers comes to. No sum, difference or quotient
leaves the words, no page is cut from outside the rows, and the words that come out stand for the
numbers. -/
namespace EquityScreen.Words

variable {a b : UInt64}

theorem toNat_le_maxWord (a : UInt64) : a.toNat ≤ maxWord := by
  have hWord := a.toNat_lt
  simp only [maxWord]
  omega

@[simp]
theorem toNat_greatest : greatest.toNat = maxWord := rfl

theorem sub_eq_ok (h : b ≤ a) : sub a b = .ok (a - b) := if_pos h

theorem add_eq_ok (h : a.toNat + b.toNat ≤ maxWord) : add a b = .ok (a + b) := if_pos h

theorem toNat_add_of_le (h : a.toNat + b.toNat ≤ maxWord) : (a + b).toNat = a.toNat + b.toNat := by
  simp only [maxWord] at h
  rw [UInt64.toNat_add]
  omega

theorem toNat_saturatingSub (a b : UInt64) : (saturatingSub a b).toNat = a.toNat - b.toNat := by
  rw [saturatingSub]
  split
  · next h => exact UInt64.toNat_sub_of_le a b h
  · next h =>
      rw [UInt64.le_iff_toNat_le] at h
      simp only [UInt64.toNat_zero]
      omega

theorem toNat_saturatingAdd (a b : UInt64) :
    (saturatingAdd a b).toNat = min maxWord (a.toNat + b.toNat) := by
  rw [saturatingAdd]
  split
  · next h => rw [toNat_add_of_le h, Nat.min_eq_right h]
  · next h => rw [toNat_greatest, Nat.min_eq_left (by omega)]

theorem toNat_saturatingMul (a b : UInt64) :
    (saturatingMul a b).toNat = min maxWord (a.toNat * b.toNat) := by
  rw [saturatingMul]
  split
  · next h =>
      rw [UInt64.toNat_mul, Nat.min_eq_right h]
      simp only [maxWord] at h
      omega
  · next h => rw [toNat_greatest, Nat.min_eq_left (by omega)]

/-- The list of page links. Only the total is reduced, and only where it is greater than seven. -/
theorem pageNumbers_eq (current total : UInt64) :
    pageNumbers current total = .ok (EquityScreen.pageNumbers current.toNat total.toNat) := by
  have hShort : total ≤ .ofNat maxFullPageList ↔ total.toNat ≤ maxFullPageList :=
    UInt64.le_iff_toNat_le
  by_cases hFew : total.toNat ≤ maxFullPageList
  · rw [pageNumbers, if_pos (hShort.mpr hFew), EquityScreen.pageNumbers, if_pos hFew]
    rfl
  · have hMany : 7 < total.toNat := Nat.lt_of_not_le hFew
    have hTwo : (2 : UInt64) ≤ total := UInt64.le_iff_toNat_le.mpr (show 2 ≤ total.toNat by omega)
    have hOne : (1 : UInt64) ≤ total := UInt64.le_iff_toNat_le.mpr (show 1 ≤ total.toNat by omega)
    have hFirst : (max (saturatingSub current 1) 3).toNat = max (current.toNat - 1) 3 := by
      rw [UInt64.toNat_max, toNat_saturatingSub]
      rfl
    have hLast : (min (saturatingAdd current 1) (total - 2)).toNat =
        min (min maxWord (current.toNat + 1)) (total.toNat - 2) := by
      rw [UInt64.toNat_min, toNat_saturatingAdd, UInt64.toNat_sub_of_le _ _ hTwo]
      rfl
    rw [pageNumbers, if_neg (mt hShort.mp hFew), EquityScreen.pageNumbers, if_neg hFew,
      sub_eq_ok hTwo, sub_eq_ok hOne]
    simp only [bind, Except.bind, pure, Except.pure, pagesBetween, UInt64.lt_iff_toNat_lt, hFirst,
      hLast, UInt64.toNat_sub_of_le _ _ hTwo, UInt64.toNat_sub_of_le _ _ hOne]
    rfl

/-- The number of pages as a quotient and one more page for what is left over. -/
theorem totalPages_eq_div_add {count pageSize : Nat} (hSize : 1 ≤ pageSize) :
    EquityScreen.totalPages count pageSize =
      count / pageSize + if count % pageSize = 0 then 0 else 1 := by
  have hDivide := Nat.div_add_mod count pageSize
  have hLeft := Nat.mod_lt count hSize
  rw [Nat.mul_comm] at hDivide
  rw [EquityScreen.totalPages, if_neg (by omega)]
  split
  · rw [Nat.add_zero]
    apply Nat.div_eq_of_lt_le
    · omega
    · rw [Nat.add_mul]
      omega
  · apply Nat.div_eq_of_lt_le
    · rw [Nat.add_mul]
      omega
    · rw [Nat.add_mul, Nat.add_mul]
      omega

/-- The number of pages. The quotient is increased only where something is left over, and there it
is less than the dividend. -/
theorem totalPages_eq (rowCount pageSize : UInt64) :
    (totalPages rowCount pageSize).map UInt64.toNat =
      .ok (EquityScreen.totalPages rowCount.toNat pageSize.toNat) := by
  by_cases hNone : pageSize = 0
  · subst hNone
    rfl
  · have hSize : 1 ≤ pageSize.toNat :=
      Nat.one_le_iff_ne_zero.mpr fun h => hNone (UInt64.toNat_inj.mp h)
    have hExact : rowCount % pageSize = 0 ↔ rowCount.toNat % pageSize.toNat = 0 :=
      UInt64.toNat_inj.symm
    rw [totalPages, if_neg hNone, divCeil, if_neg hNone, totalPages_eq_div_add hSize]
    by_cases hLeft : rowCount.toNat % pageSize.toNat = 0
    · rw [if_pos (hExact.mpr hLeft), if_pos hLeft, Except.map, UInt64.toNat_div, Nat.add_zero]
    · have hFits : (rowCount / pageSize).toNat + (1 : UInt64).toNat ≤ maxWord := by
        have hDivide := Nat.div_add_mod rowCount.toNat pageSize.toNat
        have hQuotient := Nat.le_mul_of_pos_left (rowCount.toNat / pageSize.toNat) hSize
        have hWord := toNat_le_maxWord rowCount
        rw [UInt64.toNat_div, UInt64.toNat_one]
        omega
      rw [if_neg (mt hExact.mp hLeft), if_neg hLeft, add_eq_ok hFits, Except.map,
        toNat_add_of_le hFits, UInt64.toNat_div, UInt64.toNat_one]

theorem slice_eq_ok {rows : List α} {start stop : UInt64} (hOrder : start.toNat ≤ stop.toNat)
    (hInside : stop.toNat ≤ rows.length) :
    slice rows start stop = .ok ((rows.drop start.toNat).take (stop.toNat - start.toNat)) :=
  if_pos ⟨UInt64.le_iff_toNat_le.mpr hOrder, hInside⟩

/-- One page. -/
theorem paginate_eq {rows : List α} (hRows : rows.length < 2 ^ 64) (page pageSize : UInt64) :
    paginate rows page pageSize = .ok (EquityScreen.paginate rows page.toNat pageSize.toNat) := by
  have hZero (w : UInt64) : w = 0 ↔ w.toNat = 0 := UInt64.toNat_inj.symm
  have hCount : (UInt64.ofNat rows.length).toNat = rows.length := UInt64.toNat_ofNat_of_lt' hRows
  simp only [paginate, EquityScreen.paginate, hZero]
  split
  · rfl
  · next hSome =>
      have hOne : (1 : UInt64) ≤ page :=
        UInt64.le_iff_toNat_le.mpr (show 1 ≤ page.toNat by omega)
      have hStart : (saturatingMul (page - 1) pageSize).toNat =
          min maxWord ((page.toNat - 1) * pageSize.toNat) := by
        rw [toNat_saturatingMul, UInt64.toNat_sub_of_le _ _ hOne]
        rfl
      rw [sub_eq_ok hOne]
      simp only [bind, Except.bind, pure, Except.pure, UInt64.le_iff_toNat_le, hCount, hStart]
      split
      · rfl
      · next hPast =>
          have hStop : (min (saturatingAdd (saturatingMul (page - 1) pageSize) pageSize)
              (UInt64.ofNat rows.length)).toNat =
              min (min maxWord (min maxWord ((page.toNat - 1) * pageSize.toNat) + pageSize.toNat))
                rows.length := by
            rw [UInt64.toNat_min, toNat_saturatingAdd, hStart, hCount]
          rw [slice_eq_ok (by omega) (by omega), hStop, hStart]

end EquityScreen.Words
