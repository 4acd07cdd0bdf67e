import EquityScreen.Proofs.PageControls
import Mathlib.Data.List.Basic

/-! Walking through a table by its links. Every step goes through an address, so a
walk visits states that were read back, and the table they show must stay the same
while the page moves. -/
namespace EquityScreen.Page

open ScreenState

/-- Follow a link from a state for as long as it is offered. The path lists the
states that are seen, the first one included, so its length is one more than the
number of steps. -/
inductive Walk (link : ScreenState → Option String) : ScreenState → List ScreenState → Prop where
  | stop {s : ScreenState} (absent : link s = none) : Walk link s [s]
  | follow {s : ScreenState} {href : String} {path : List ScreenState}
      (offered : link s = some href) (rest : Walk link (ofQueryString href) path) :
      Walk link s (s :: path)

/-- A state leaves no choice about the walk from it. -/
theorem Walk.unique {link : ScreenState → Option String} {s : ScreenState}
    {path other : List ScreenState} (walk : Walk link s path) (walk' : Walk link s other) :
    other = path := by
  induction walk generalizing other with
  | stop absent =>
      cases walk' with
      | stop _ => rfl
      | follow offered _ =>
          rw [absent] at offered
          cases offered
  | follow offered rest ih =>
      cases walk' with
      | stop absent =>
          rw [absent] at offered
          cases offered
      | follow offered' rest' =>
          have hHref := Option.some.inj (offered.symm.trans offered')
          subst hHref
          rw [ih rest']

/-- The links of a table that lead to a page of it. -/
def ResultsTable.pageHrefs (results : ResultsTable) : List String :=
  [results.firstHref, results.prevHref, results.nextHref, results.lastHref].filterMap id ++
    results.pages.filterMap PageLink.href

section Table

variable {rows : List Stock} {pageSize : Nat}

theorem visibleRows_atPage (s : ScreenState) (page : Nat) :
    (atPage s page).table.visibleRows rows = s.table.visibleRows rows :=
  s.table.visibleRows_trimmed page rows

theorem atPage_atPage (s : ScreenState) (page : Nat) : atPage (atPage s page) = atPage s := by
  funext other
  simp only [atPage, withTable, Text.trimString_trimString]

/-- The number of pages of the table of a state. -/
abbrev pageCount (rows : List Stock) (pageSize : Nat) (s : ScreenState) : Nat :=
  totalPages (s.table.visibleRows rows).length pageSize

theorem pageCount_atPage (s : ScreenState) (page : Nat) :
    pageCount rows pageSize (atPage s page) = pageCount rows pageSize s := by
  rw [pageCount, visibleRows_atPage]

theorem pageCount_lt (hRows : rows.length < 2 ^ 64) (s : ScreenState) :
    pageCount rows pageSize s < 2 ^ 64 :=
  lt_of_le_of_lt ((totalPages_le _ _).trans (s.table.length_visibleRows_le rows)) hRows

/-- The link to the next page. -/
def nextLink (rows : List Stock) (pageSize : Nat) (s : ScreenState) : Option String :=
  (ResultsTable.ofRows rows pageSize s).nextHref

/-- The link to the previous page. -/
def prevLink (rows : List Stock) (pageSize : Nat) (s : ScreenState) : Option String :=
  (ResultsTable.ofRows rows pageSize s).prevHref

theorem nextLink_eq (s : ScreenState) :
    nextLink rows pageSize s =
      if s.table.page < pageCount rows pageSize s then some (pageHref s (s.table.page + 1))
      else none := rfl

theorem prevLink_eq (s : ScreenState) :
    prevLink rows pageSize s =
      if 1 < s.table.page ∧ 0 < pageCount rows pageSize s then
        some (pageHref s (min (s.table.page - 1) (pageCount rows pageSize s)))
      else none := rfl

/-- Going on from page to page visits all later pages in order. The induction is on
the number of pages that are left. -/
theorem walk_next (hRows : rows.length < 2 ^ 64) (s : ScreenState) :
    Walk (nextLink rows pageSize) s
      (s :: (List.range' (s.table.page + 1) (pageCount rows pageSize s - s.table.page)).map
        (atPage s)) := by
  generalize hLeft : pageCount rows pageSize s - s.table.page = left
  induction left generalizing s with
  | zero =>
      have hAbsent : nextLink rows pageSize s = none := by
        rw [nextLink_eq, if_neg (by omega)]
      exact Walk.stop hAbsent
  | succ left ih =>
      have hWord : pageCount rows pageSize s < 2 ^ 64 := pageCount_lt hRows s
      have hOffered : nextLink rows pageSize s = some (pageHref s (s.table.page + 1)) := by
        rw [nextLink_eq, if_pos (by omega)]
      have hLeft' : pageCount rows pageSize (atPage s (s.table.page + 1)) -
          (s.table.page + 1) = left := by
        rw [pageCount_atPage]
        omega
      have hRest := ih (atPage s (s.table.page + 1)) hLeft'
      rw [atPage_atPage] at hRest
      refine Walk.follow hOffered ?_
      rw [ofQueryString_pageHref s (by omega) (by omega), List.range'_succ, List.map_cons]
      exact hRest

/-- Going back reaches the first page, from pages past the last one by way of it. -/
theorem walk_prev (hRows : rows.length < 2 ^ 64) (s : ScreenState) (hPage : 1 ≤ s.table.page)
    (hCount : 0 < pageCount rows pageSize s) :
    ∃ path last, Walk (prevLink rows pageSize) s (path ++ [last]) ∧ last.table.page = 1 := by
  induction hNumber : s.table.page using Nat.strong_induction_on generalizing s with
  | _ page ih =>
      subst hNumber
      by_cases hFirst : s.table.page = 1
      · have hAbsent : prevLink rows pageSize s = none := by
          rw [prevLink_eq, if_neg (by omega)]
        exact ⟨[], s, Walk.stop hAbsent, hFirst⟩
      · have hWord : pageCount rows pageSize s < 2 ^ 64 := pageCount_lt hRows s
        have hOffered : prevLink rows pageSize s =
            some (pageHref s (min (s.table.page - 1) (pageCount rows pageSize s))) := by
          rw [prevLink_eq, if_pos ⟨by omega, hCount⟩]
        generalize hTarget : min (s.table.page - 1) (pageCount rows pageSize s) = target at hOffered
        have hRead := ofQueryString_pageHref s (show 1 ≤ target by omega) (by omega)
        have hCount' : 0 < pageCount rows pageSize (atPage s target) := by
          rwa [pageCount_atPage]
        obtain ⟨path, last, hWalk, hLast⟩ :=
          ih target (by omega) (atPage s target) (by change 1 ≤ target; omega) hCount' rfl
        refine ⟨s :: path, last, Walk.follow hOffered ?_, hLast⟩
        rwa [hRead]

/-- The rows seen on a walk from the first page are all rows, each on one page. -/
theorem flatMap_rows_walk (hRows : rows.length < 2 ^ 64) (hSize : 1 ≤ pageSize)
    {s : ScreenState} (hFirst : s.table.page = 1) :
    (s :: (List.range' 2 (pageCount rows pageSize s - 1)).map (atPage s)).flatMap
        (fun t => (TableView.ofRows rows t.table pageSize).rows) = s.table.visibleRows rows := by
  have hVisible : (s.table.visibleRows rows).length < 2 ^ 64 :=
    lt_of_le_of_lt (s.table.length_visibleRows_le rows) hRows
  have hShown (t : ScreenState) (ht : t.table.visibleRows rows = s.table.visibleRows rows) :
      (TableView.ofRows rows t.table pageSize).rows =
        paginate (s.table.visibleRows rows) t.table.page pageSize := by
    rw [TableView.ofRows, ht]
  have hLater : ((List.range' 2 (pageCount rows pageSize s - 1)).map (atPage s)).flatMap
        (fun t => (TableView.ofRows rows t.table pageSize).rows) =
      (List.range' 2 (pageCount rows pageSize s - 1)).flatMap
        (fun n => paginate (s.table.visibleRows rows) n pageSize) := by
    rw [List.flatMap_map]
    exact List.flatMap_congr fun n _ => hShown (atPage s n) (visibleRows_atPage s n)
  have hEnough : (s.table.visibleRows rows).length ≤
      (1 - 1 + (pageCount rows pageSize s - 1 + 1)) * pageSize := by
    have hLast : ¬pageCount rows pageSize s * pageSize < (s.table.visibleRows rows).length :=
      (lt_totalPages_iff hSize).not.mp (lt_irrefl _)
    have hMore : pageCount rows pageSize s * pageSize ≤
        (1 - 1 + (pageCount rows pageSize s - 1 + 1)) * pageSize :=
      Nat.mul_le_mul_right pageSize (by omega)
    omega
  have hAll := flatMap_paginate hVisible hSize (le_refl 1) hEnough
  rw [List.range'_succ, List.flatMap_cons] at hAll
  rw [List.flatMap_cons, hLater, hShown s rfl, hFirst]
  simpa using hAll

/-- A link that is offered under a condition, and then leads to another page. -/
theorem target_of_offered (hRows : rows.length < 2 ^ 64) {s : ScreenState} {n : Nat}
    {condition : Prop} [Decidable condition] {href : String}
    (hHref : (if condition then some (pageHref s n) else none) = some href)
    (hTarget : condition → 1 ≤ n ∧ n ≤ pageCount rows pageSize s ∧ n ≠ s.table.page) :
    ∃ m, ofQueryString href = atPage s m ∧ 1 ≤ m ∧ m ≤ pageCount rows pageSize s ∧
      m ≠ s.table.page := by
  have hWord : pageCount rows pageSize s < 2 ^ 64 := pageCount_lt hRows s
  rw [Option.ite_none_right_eq_some] at hHref
  obtain ⟨hCondition, hSame⟩ := hHref
  obtain ⟨hFirst, hLast, hOther⟩ := hTarget hCondition
  refine ⟨n, ?_, hFirst, hLast, hOther⟩
  rw [← Option.some.inj hSame, ofQueryString_pageHref s hFirst (by omega)]

/-- Every link to a page leads to an existing page other than the one shown. -/
theorem mem_pageHrefs_target (hRows : rows.length < 2 ^ 64) {s : ScreenState} {href : String}
    (hHref : href ∈ (ResultsTable.ofRows rows pageSize s).pageHrefs) :
    ∃ n, ofQueryString href = atPage s n ∧ 1 ≤ n ∧ n ≤ pageCount rows pageSize s ∧
      n ≠ s.table.page := by
  rw [ResultsTable.pageHrefs, List.mem_append, List.mem_filterMap, List.mem_filterMap] at hHref
  rcases hHref with ⟨link, hLink, hSome⟩ | ⟨link, hLink, hSome⟩
  · simp only [List.mem_cons, List.not_mem_nil, or_false] at hLink
    rcases hLink with rfl | rfl | rfl | rfl
    · exact target_of_offered hRows hSome fun h => ⟨le_refl 1, h.2, Nat.ne_of_lt h.1⟩
    · have hBack (h : 1 < s.table.page ∧ 0 < pageCount rows pageSize s) :
          1 ≤ min (s.table.page - 1) (pageCount rows pageSize s) ∧
          min (s.table.page - 1) (pageCount rows pageSize s) ≤ pageCount rows pageSize s ∧
          min (s.table.page - 1) (pageCount rows pageSize s) ≠ s.table.page := by
        omega
      exact target_of_offered hRows hSome hBack
    · exact target_of_offered hRows hSome fun h => ⟨Nat.le_add_left 1 _, h, Nat.succ_ne_self _⟩
    · exact target_of_offered hRows hSome fun h =>
        ⟨Nat.one_le_of_lt h, le_refl _, Nat.ne_of_gt h⟩
  · obtain ⟨n, _, hRead, hTarget⟩ := ofQueryString_pageLink hRows hLink hSome
    exact ⟨n, hRead, hTarget⟩

/-- Without rows there is nowhere to go. -/
theorem pageHrefs_of_no_pages (hRows : rows.length < 2 ^ 64) {s : ScreenState}
    (hNone : pageCount rows pageSize s = 0) :
    (ResultsTable.ofRows rows pageSize s).pageHrefs = [] := by
  refine List.eq_nil_iff_forall_not_mem.mpr fun href hHref => ?_
  obtain ⟨n, _, hFirst, hLast, _⟩ := mem_pageHrefs_target hRows hHref
  omega

end Table

/-- What paging by links promises for the table of a state. The walk forward starts
from the first page; links and the walk back start from the page of the state. -/
structure PagesByLinks (rows : List Stock) (pageSize : Nat) (s : ScreenState) : Prop where
  forward : ∃ path,
    (∀ other, Walk (nextLink rows pageSize) (s.withTable (s.table.withPage 1)) other ↔
      other = path) ∧
    path.length = max ((TableView.ofRows rows s.table pageSize).totalPages - 1) 0 + 1 ∧
    path.flatMap (fun t => (TableView.ofRows rows t.table pageSize).rows) =
      sortRows (searchByTicker rows s.table.search.toList) s.table.sort ∧
    ∀ t ∈ path,
      (TableView.ofRows rows t.table pageSize).totalRows =
        (TableView.ofRows rows s.table pageSize).totalRows ∧
      (TableView.ofRows rows t.table pageSize).totalPages =
        (TableView.ofRows rows s.table pageSize).totalPages
  target : ∀ href ∈ (ResultsTable.ofRows rows pageSize s).pageHrefs,
    ∃ n, ofQueryString href = atPage s n ∧ 1 ≤ n ∧
      n ≤ (TableView.ofRows rows s.table pageSize).totalPages ∧ n ≠ s.table.page
  backward : 0 < (TableView.ofRows rows s.table pageSize).totalPages →
    ∃ path last, Walk (prevLink rows pageSize) s (path ++ [last]) ∧ last.table.page = 1
  empty : (TableView.ofRows rows s.table pageSize).totalRows = 0 →
    (ResultsTable.ofRows rows pageSize s).pageHrefs = []

/-- Paging by links loses and repeats nothing, from every page and past the last one,
for every list of rows that a machine can hold. -/
theorem pages_by_links {rows : List Stock} (hRows : rows.length < 2 ^ 64) {pageSize : Nat}
    (hSize : 1 ≤ pageSize) {s : ScreenState} (hPage : 1 ≤ s.table.page) :
    PagesByLinks rows pageSize s where
  forward := by
    let first := s.withTable (s.table.withPage 1)
    have hSame : first.table.visibleRows rows = s.table.visibleRows rows := rfl
    refine ⟨first :: (List.range' 2 (pageCount rows pageSize first - 1)).map (atPage first),
      ?_, ?_, flatMap_rows_walk hRows hSize rfl, ?_⟩
    · have hWalk : Walk (nextLink rows pageSize) first _ := walk_next hRows first
      exact fun other => ⟨hWalk.unique, fun h => h ▸ hWalk⟩
    · rw [List.length_cons, List.length_map, List.length_range', Nat.max_zero]
      rfl
    · have hTable (t : ScreenState) (ht : t.table.visibleRows rows = s.table.visibleRows rows) :
          (TableView.ofRows rows t.table pageSize).totalRows =
            (TableView.ofRows rows s.table pageSize).totalRows ∧
          (TableView.ofRows rows t.table pageSize).totalPages =
            (TableView.ofRows rows s.table pageSize).totalPages := by
        simp only [TableView.ofRows, ht, and_self]
      intro t ht
      rcases List.mem_cons.mp ht with rfl | ht
      · exact hTable first hSame
      · obtain ⟨n, _, rfl⟩ := List.mem_map.mp ht
        exact hTable _ ((visibleRows_atPage first n).trans hSame)
  target := fun _ hHref => mem_pageHrefs_target hRows hHref
  backward := walk_prev hRows s hPage
  empty := by
    intro hNone
    refine pageHrefs_of_no_pages hRows (Nat.le_zero.mp ?_)
    exact (totalPages_le _ _).trans (Nat.le_of_eq hNone)

/-- Eleven rows on pages of five: three pages, seen from one that lies past them. -/
theorem pages_by_links_past_end :
    (List.replicate 11 (Stock.ofTicker "AB")).length < 2 ^ 64 ∧ 1 ≤ 5 ∧ 1 ≤ 9 ∧
    PagesByLinks (List.replicate 11 (Stock.ofTicker "AB")) 5
      ⟨"roe > 1", some ⟨.ticker, .descending⟩, 9, " a "⟩ := by
  have hRows : (List.replicate 11 (Stock.ofTicker "AB")).length < 2 ^ 64 := by
    rw [List.length_replicate]
    decide
  exact ⟨hRows, by decide, by decide, pages_by_links hRows (by decide) (by decide)⟩

end EquityScreen.Page
