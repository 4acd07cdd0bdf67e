import EquityScreen.Condition
import EquityScreen.Proofs.Paging
import EquityScreen.Proofs.RowOrder
import EquityScreen.Proofs.TickerSearch

/-! Sorting rows. The rows of a sorted table are those of the unsorted one in the order of their
ranks, and the rows of each rank are left as they were. This leaves one list only, so that
whatever keeps these conditions, as taking rows out does, commutes with sorting. -/
namespace EquityScreen

/-- No row stands behind one that it should come before. -/
def SortConfig.InOrder (sort : SortConfig) (rows : List Stock) : Prop :=
  rows.Pairwise fun a b => Rank.Before sort.direction (sort.rank a) (sort.rank b)

/-- The rows of a rank, as they stand in a table. -/
def SortConfig.ofRank (sort : SortConfig) (r : Rank) (rows : List Stock) : List Stock :=
  rows.filter fun s => sort.rank s = r

/-- The rows of a table as a sort asks for them. -/
structure SortedBy (sort : SortConfig) (rows sorted : List Stock) : Prop where
  perm : sorted.Perm rows
  inOrder : sort.InOrder sorted
  missingLast : sorted =
    sorted.filter (fun s => sort.rank s ≠ .missing) ++ sort.ofRank .missing rows
  ties : ∀ r, sort.ofRank r sorted = sort.ofRank r rows

variable {sort : SortConfig} {rows sorted other : List Stock}

/-- Behind a row without a value there are only such rows. -/
theorem SortConfig.InOrder.missing_last (h : sort.InOrder sorted) :
    sorted.filter (fun s => sort.rank s ≠ .missing) ++ sort.ofRank .missing sorted = sorted := by
  induction sorted with
  | nil => rfl
  | cons a rest ih =>
      obtain ⟨hBefore, hRest⟩ := List.pairwise_cons.mp h
      by_cases hMissing : sort.rank a = .missing
      · have hAll : ∀ s ∈ a :: rest, sort.rank s = .missing := by
          intro s hs
          rcases List.mem_cons.mp hs with rfl | hs
          · exact hMissing
          · exact Rank.missing_of_before (hMissing ▸ hBefore s hs)
        have hNone : (a :: rest).filter (fun s => sort.rank s ≠ .missing) = [] := by
          simpa using hAll
        have hEvery : sort.ofRank .missing (a :: rest) = a :: rest := by
          simpa [ofRank] using hAll
        rw [hNone, hEvery, List.nil_append]
      · simpa [ofRank, hMissing] using ih hRest

theorem SortedBy.of_inOrder (hPerm : sorted.Perm rows) (hOrder : sort.InOrder sorted)
    (hTies : ∀ r, sort.ofRank r sorted = sort.ofRank r rows) : SortedBy sort rows sorted where
  perm := hPerm
  inOrder := hOrder
  missingLast := by rw [← hTies, hOrder.missing_last]
  ties := hTies

/-- Two lists in order that hold the same rows of each rank, in the same order, are the same. The
induction takes off their first rows: each may stand before the other, so they have one rank. -/
theorem eq_of_ties (hOrder : sort.InOrder sorted) (hOther : sort.InOrder other)
    (hTies : ∀ r, sort.ofRank r sorted = sort.ofRank r other) : sorted = other := by
  induction sorted generalizing other with
  | nil =>
      cases other with
      | nil => rfl
      | cons b other => simpa [SortConfig.ofRank] using hTies (sort.rank b)
  | cons a sorted ih =>
      cases other with
      | nil => simpa [SortConfig.ofRank] using hTies (sort.rank a)
      | cons b other =>
          obtain ⟨hFirst, hSorted⟩ := List.pairwise_cons.mp hOrder
          obtain ⟨hFirst', hOther⟩ := List.pairwise_cons.mp hOther
          have hMem (s : Stock) : s ∈ a :: sorted ↔ s ∈ b :: other := by
            simpa [SortConfig.ofRank] using congrArg (s ∈ ·) (hTies (sort.rank s))
          have hRank : sort.rank a = sort.rank b := by
            rcases List.mem_cons.mp ((hMem a).mp List.mem_cons_self) with hSame | ha
            · rw [hSame]
            rcases List.mem_cons.mp ((hMem b).mpr List.mem_cons_self) with hSame | hb
            · rw [hSame]
            exact (hFirst b hb).antisymm (hFirst' a ha)
          have hHead : a = b := by
            have hTie := hTies (sort.rank a)
            simp only [SortConfig.ofRank, hRank, decide_true, List.filter_cons_of_pos] at hTie
            exact (List.cons.inj hTie).1
          have hTail : sorted = other := by
            apply ih hSorted hOther
            intro r
            have hTie := hTies r
            by_cases hr : sort.rank b = r <;>
              simpa [SortConfig.ofRank, hRank, hr, hHead] using hTie
          rw [hHead, hTail]

theorem SortedBy.unique (h : SortedBy sort rows sorted) (h' : SortedBy sort rows other) :
    sorted = other :=
  eq_of_ties h.inOrder h'.inOrder fun r => (h.ties r).trans (h'.ties r).symm

/-- A table stays sorted when rows are taken out. -/
theorem SortedBy.filter (p : Stock → Bool) (h : SortedBy sort rows sorted) :
    SortedBy sort (rows.filter p) (sorted.filter p) := by
  apply of_inOrder (h.perm.filter p) (h.inOrder.filter p)
  intro r
  have hTie := congrArg (List.filter p) (h.ties r)
  simpa only [SortConfig.ofRank, List.filter_filter, Bool.and_comm] using hTie

theorem inOrder_sortRows (sort : SortConfig) (rows : List Stock) :
    sort.InOrder (sortRows rows (some sort)) := by
  apply (List.pairwise_mergeSort (fun _ _ _ => Std.TransCmp.isLE_trans)
    sort.isLE_compareRows_total rows).imp
  intro a b h
  exact (sort.isLE_compareRows_iff a b).mp h

/-- Rows of one rank compare as not after each other, so they are a part of the table that is in
order already, and sorting keeps such a part. -/
theorem ofRank_sortRows (sort : SortConfig) (rows : List Stock) (r : Rank) :
    sort.ofRank r (sortRows rows (some sort)) = sort.ofRank r rows := by
  have hTied : (sort.ofRank r rows).Pairwise fun a b => (sort.compareRows a b).isLE = true := by
    apply List.pairwise_of_forall_mem_list
    intro a ha b hb
    have hSame : sort.rank a = sort.rank b :=
      (of_decide_eq_true (List.mem_filter.mp ha).2).trans
        (of_decide_eq_true (List.mem_filter.mp hb).2).symm
    exact Ordering.isLE_of_eq_eq ((sort.compareRows_eq_iff a b).mpr hSame)
  have hPart : (sort.ofRank r rows).Sublist (sortRows rows (some sort)) :=
    List.sublist_mergeSort (fun _ _ _ => Std.TransCmp.isLE_trans) sort.isLE_compareRows_total
      hTied List.filter_sublist
  have hKept : (sort.ofRank r rows).Sublist (sort.ofRank r (sortRows rows (some sort))) := by
    simpa [SortConfig.ofRank] using hPart.filter fun s => sort.rank s = r
  have hLength : (sort.ofRank r (sortRows rows (some sort))).length = (sort.ofRank r rows).length :=
    ((sortRows_perm rows (some sort)).filter _).length_eq
  exact (hKept.eq_of_length hLength.symm).symm

theorem sortedBy_sortRows (sort : SortConfig) (rows : List Stock) :
    SortedBy sort rows (sortRows rows (some sort)) :=
  .of_inOrder (sortRows_perm rows _) (inOrder_sortRows sort rows) (ofRank_sortRows sort rows)

/-- A sorted table is what sorting makes of it. -/
theorem SortedBy.again (h : SortedBy sort rows sorted) : SortedBy sort sorted sorted :=
  .of_inOrder (.refl sorted) h.inOrder fun _ => rfl

/-- Sorting gives the one list that the conditions leave. Once sorted, a table stays as it is, and
so it does where no sort is asked for. -/
theorem sortRows_stable (rows : List Stock) (sort : SortConfig) :
    (∀ sorted, SortedBy sort rows sorted ↔ sorted = sortRows rows (some sort)) ∧
    sortRows (sortRows rows (some sort)) (some sort) = sortRows rows (some sort) ∧
    sortRows rows none = rows := by
  have hSorted := sortedBy_sortRows sort rows
  refine ⟨fun sorted => ⟨fun h => h.unique hSorted, fun h => h ▸ hSorted⟩, ?_, rfl⟩
  exact (sortedBy_sortRows sort _).unique hSorted.again

/-! Sorting and taking rows out. -/

theorem filter_sortRows (p : Stock → Bool) (rows : List Stock) (sort : Option SortConfig) :
    (sortRows rows sort).filter p = sortRows (rows.filter p) sort := by
  cases sort with
  | none => rfl
  | some sort =>
      exact ((sortedBy_sortRows sort rows).filter p).unique (sortedBy_sortRows sort _)

/-- It makes no difference whether the whole table is sorted first and screened and searched then,
in either order, or the rows that are found are sorted at last, as for a view. -/
theorem sorting_commutes (stocks : List Stock) (conditions : List Condition) (term : String)
    (sort : Option SortConfig) :
    searchByTicker ((sortRows stocks sort).filter (matchesAll conditions)) term.toList =
      sortRows (searchByTicker (filterStocks stocks conditions) term.toList) sort ∧
    (searchByTicker (sortRows stocks sort) term.toList).filter (matchesAll conditions) =
      sortRows (searchByTicker (filterStocks stocks conditions) term.toList) sort ∧
    ∀ page pageSize,
      TableView.ofRows (filterStocks stocks conditions) ⟨sort, page, term⟩ pageSize =
        let found :=
          searchByTicker ((sortRows stocks sort).filter (matchesAll conditions)) term.toList
        ⟨paginate found page pageSize, page, pageSize, found.length,
          totalPages found.length pageSize⟩ := by
  have hScreened :
      searchByTicker ((sortRows stocks sort).filter (matchesAll conditions)) term.toList =
        sortRows (searchByTicker (filterStocks stocks conditions) term.toList) sort := by
    rw [searchByTicker_eq_filter, searchByTicker_eq_filter, filter_sortRows, filter_sortRows,
      filterStocks]
  have hSearched : (searchByTicker (sortRows stocks sort) term.toList).filter
      (matchesAll conditions) =
      searchByTicker ((sortRows stocks sort).filter (matchesAll conditions)) term.toList := by
    rw [searchByTicker_eq_filter, searchByTicker_eq_filter, List.filter_filter,
      List.filter_filter]
    simp only [Bool.and_comm]
  refine ⟨hScreened, hSearched.trans hScreened, fun page pageSize => ?_⟩
  rw [hScreened]
  rfl

end EquityScreen
