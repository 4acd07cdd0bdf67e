import EquityScreen.Proofs.StableSort

/-! Comparing rows is lawful, whatever stands in them: absent values, NaNs of any bits, infinities
and zeros of either sign, and tickers in any script. A stable sort may rely on it and has one
result only, which the comparison alone determines. -/
namespace EquityScreen

section Comparisons

variable {α : Type}

/-- A comparison of a total preorder. Rows that compare equal are alike for all comparing. -/
structure LawfulComparison (cmp : α → α → Ordering) : Prop where
  self : ∀ a, cmp a a = .eq
  reverse : ∀ a b, cmp b a = (cmp a b).swap
  trans : ∀ a b c, cmp a b ≠ .gt → cmp b c ≠ .gt → cmp a c ≠ .gt
  alike : ∀ a b, cmp a b = .eq → ∀ c, cmp a c = cmp b c ∧ cmp c a = cmp c b
  /-- Each of the three results is transitive by itself. -/
  same : ∀ o a b c, cmp a b = o → cmp b c = o → cmp a c = o

/-- Some rows in the order of a comparison. Nothing is added or lost, no row stands in front of one
that it comes after, and the rows that compare equal to a row stay in their order. -/
structure StablySorted (cmp : α → α → Ordering) (rows sorted : List α) : Prop where
  perm : sorted.Perm rows
  inOrder : sorted.Pairwise fun a b => cmp a b ≠ .gt
  ties : ∀ a ∈ rows, sorted.filter (cmp a · = .eq) = rows.filter (cmp a · = .eq)

theorem lawfulComparison_of_transCmp (cmp : α → α → Ordering) [Std.TransCmp cmp] :
    LawfulComparison cmp where
  self a := Std.ReflCmp.compare_self
  reverse a b := Std.OrientedCmp.eq_swap
  trans a b c hab hbc :=
    Ordering.isLE_iff_ne_gt.mp (Std.TransCmp.isLE_trans (Ordering.isLE_iff_ne_gt.mpr hab)
      (Ordering.isLE_iff_ne_gt.mpr hbc))
  alike a b h c := ⟨Std.TransCmp.congr_left h, Std.TransCmp.congr_right h⟩
  same o a b c hab hbc := by
    cases o with
    | lt => exact Std.TransCmp.lt_trans hab hbc
    | eq => exact Std.TransCmp.eq_trans hab hbc
    | gt => exact Std.TransCmp.gt_trans hab hbc

end Comparisons

namespace SortConfig

/-- The rows that compare equal to a row are those of its rank. -/
theorem filter_compareRows_eq (sort : SortConfig) (a : Stock) (rows : List Stock) :
    rows.filter (sort.compareRows a · = .eq) = sort.ofRank (sort.rank a) rows := by
  refine List.filter_congr fun s _ => ?_
  rw [decide_eq_decide, compareRows_eq_iff, eq_comm]

/-- Sorting by ranks is sorting by the comparison. -/
theorem stablySorted_iff (sort : SortConfig) (rows sorted : List Stock) :
    StablySorted sort.compareRows rows sorted ↔ SortedBy sort rows sorted := by
  have hBefore (a b : Stock) : sort.compareRows a b ≠ .gt ↔
      Rank.Before sort.direction (sort.rank a) (sort.rank b) :=
    Ordering.isLE_iff_ne_gt.symm.trans (isLE_compareRows_iff sort a b)
  constructor
  · intro h
    refine .of_inOrder h.perm (h.inOrder.imp fun hOrder => (hBefore _ _).mp hOrder) fun r => ?_
    -- A rank that no row has is one of no sorted row either.
    by_cases hRank : ∃ a ∈ rows, sort.rank a = r
    · obtain ⟨a, ha, rfl⟩ := hRank
      rw [← filter_compareRows_eq, ← filter_compareRows_eq]
      exact h.ties a ha
    · have hNone (s : Stock) (hs : s ∈ rows) : sort.rank s ≠ r := fun h => hRank ⟨s, hs, h⟩
      have hRows : sort.ofRank r rows = [] := by
        simpa [ofRank] using hNone
      have hSorted : sort.ofRank r sorted = [] := by
        simpa [ofRank] using fun s hs => hNone s (h.perm.mem_iff.mp hs)
      rw [hRows, hSorted]
  · intro h
    refine ⟨h.perm, h.inOrder.imp fun hOrder => (hBefore _ _).mpr hOrder, fun a _ => ?_⟩
    rw [filter_compareRows_eq, filter_compareRows_eq, h.ties]

/-- The comparison of rows by any column in either direction is lawful, and sorting with it gives
the one stable result that there is. -/
theorem compareRows_lawful (sort : SortConfig) :
    LawfulComparison sort.compareRows ∧
    ∀ rows sorted, StablySorted sort.compareRows rows sorted ↔
      sorted = sortRows rows (some sort) := by
  refine ⟨lawfulComparison_of_transCmp sort.compareRows, fun rows sorted => ?_⟩
  have hSorted := sortedBy_sortRows sort rows
  rw [stablySorted_iff]
  exact ⟨fun h => h.unique hSorted, fun h => h ▸ hSorted⟩

/-- Absent values and NaNs stand behind both infinities in descending order too, and a negative
zero behind the positive one. -/
example :
    let row (value : Option Binary64) : Stock := (Stock.ofTicker "A").setMetric .roe value
    let sort : SortConfig := ⟨.metric .roe, .descending⟩
    sort.compareRows (row (some (.infinity true))) (row (some (.nan true))) = .lt ∧
    sort.compareRows (row (some (.nan false))) (row none) = .eq ∧
    sort.compareRows (row (some (.ofMagnitude true 0))) (row (some .zero)) = .gt := by
  decide

end SortConfig

end EquityScreen
