import Mathlib.Data.List.Nodup
import EquityScreen.Page.Results
import EquityScreen.Proofs.WordPaging

/-! The list of page links as a summary of all pages. It is a list of numbers with an ellipsis in
each gap of it, and everything about ellipses follows from that; which numbers these are is
told by the two ends and by the window around the current page. -/
namespace EquityScreen

/-- Numbers in a row with an ellipsis wherever some are passed over. -/
def withEllipses : List Nat → List PageItem
  | [] => []
  | [p] => [.page p]
  | p :: q :: rest =>
    if p + 1 < q then .page p :: .ellipsis :: withEllipses (q :: rest)
    else .page p :: withEllipses (q :: rest)

/-- The pages among the places of a list. -/
def listedPages (items : List PageItem) : List Nat :=
  items.filterMap fun
    | .page n => some n
    | .ellipsis => none

/-- The pages that a list of page links offers. -/
def offeredPages (current total : Nat) : List Nat :=
  if total ≤ maxFullPageList then List.range' 1 total
  else
    let first := max (current - 1) 3
    let last := min (min maxWord (current + 1)) (total - 2)
    [1, 2] ++ List.range' first (last + 1 - first) ++ [total - 1, total]

theorem withEllipses_cons_cons (p q : Nat) (rest : List Nat) :
    withEllipses (p :: q :: rest) =
      .page p :: (if p + 1 < q then [.ellipsis] else []) ++ withEllipses (q :: rest) := by
  rw [withEllipses]
  split <;> rfl

theorem exists_withEllipses_cons (p : Nat) (pages : List Nat) :
    ∃ rest, withEllipses (p :: pages) = .page p :: rest := by
  cases pages with
  | nil => exact ⟨[], rfl⟩
  | cons q pages => exact ⟨_, withEllipses_cons_cons p q pages⟩

theorem withEllipses_range' (first count : Nat) :
    withEllipses (List.range' first count) = (List.range' first count).map .page := by
  induction count generalizing first with
  | zero => rfl
  | succ count ih =>
      cases count with
      | zero => rfl
      | succ count =>
          have hRest := ih (first + 1)
          rw [List.range'_succ] at hRest
          rw [List.range'_succ, List.range'_succ, withEllipses_cons_cons, hRest]
          simp

/-- Before numbers without a gap the list goes on as behind the last of them. -/
theorem withEllipses_range'_append (first count q : Nat) (rest : List Nat) :
    withEllipses (List.range' first (count + 1) ++ q :: rest) =
      (List.range' first (count + 1)).map .page ++
        (if first + count + 1 < q then [.ellipsis] else []) ++ withEllipses (q :: rest) := by
  induction count generalizing first with
  | zero => exact withEllipses_cons_cons first q rest
  | succ count ih =>
      have hRest := ih (first + 1)
      rw [List.range'_succ] at hRest
      have hLast : first + 1 + count + 1 = first + (count + 1) + 1 := by omega
      rw [List.range'_succ, List.range'_succ, List.cons_append, List.cons_append,
        withEllipses_cons_cons, ← List.cons_append, hRest, hLast]
      simp

/-- The list of page links shows the offered pages. If the window is empty, the current page is
near the front or behind the last one, and there is one gap. -/
theorem pageNumbers_eq_withEllipses (current : Nat) {total : Nat} (hTotal : total ≤ maxWord) :
    pageNumbers current total = withEllipses (offeredPages current total) := by
  by_cases hFew : total ≤ maxFullPageList
  · rw [pageNumbers, if_pos hFew, offeredPages, if_pos hFew, withEllipses_range']
  · rw [pageNumbers, if_neg hFew, offeredPages, if_neg hFew]
    simp only [maxFullPageList] at hFew
    generalize hFirst : max (current - 1) 3 = first
    generalize hLast : min (min maxWord (current + 1)) (total - 2) = last
    dsimp only
    have hEnd : ¬total - 1 + 1 < total := by omega
    rcases Nat.lt_or_ge last first with hNone | hSome
    · have hGap : 2 + 1 < total - 1 := by omega
      rw [Nat.sub_eq_zero_of_le hNone]
      -- An empty window lies at one end only, so that just one of the two tests holds.
      by_cases hFar : 3 < first
      · have hFull : ¬last < total - 2 := by omega
        rw [if_pos hFar, if_neg hFull]
        simp [withEllipses_cons_cons, withEllipses, hGap, hEnd]
      · have hOpen : last < total - 2 := by omega
        rw [if_neg hFar, if_pos hOpen]
        simp [withEllipses_cons_cons, withEllipses, hGap, hEnd]
    · -- The window has pages, so each test is about the gap on its own side.
      obtain ⟨count, rfl⟩ := Nat.exists_eq_add_of_le hSome
      have hCount : first + count + 1 - first = count + 1 := by omega
      have hBack : first + count + 1 < total - 1 ↔ first + count < total - 2 := by omega
      have hHead : List.range' 1 (1 + 1) = [1, 2] := rfl
      have hFront := withEllipses_range'_append 1 1 first
        (List.range' (first + 1) count ++ [total - 1, total])
      rw [← List.cons_append, ← List.range'_succ, withEllipses_range'_append, hHead] at hFront
      rw [hCount, List.append_assoc [1, 2], hFront]
      simp [withEllipses, hEnd, hBack]

/-- Where the window is empty, one ellipsis stands for all the pages between. -/
example : pageNumbers 0 9 = [.page 1, .page 2, .ellipsis, .page 8, .page 9] := by decide

/-! What follows from the shape of the list. -/

theorem listedPages_withEllipses (pages : List Nat) : listedPages (withEllipses pages) = pages := by
  fun_induction withEllipses pages with
  | case1 => rfl
  | case2 p => rfl
  | case3 p q rest hGap ih => simpa [listedPages] using ih
  | case4 p q rest hNext ih => simpa [listedPages] using ih

theorem mem_listedPages_iff {items : List PageItem} {p : Nat} :
    p ∈ listedPages items ↔ .page p ∈ items := by
  simp only [listedPages, List.mem_filterMap]
  constructor
  · rintro ⟨item, hItem, hPage⟩
    cases item with
    | page n =>
        obtain rfl := Option.some.inj hPage
        exact hItem
    | ellipsis => cases hPage
  · intro hPage
    exact ⟨.page p, hPage, rfl⟩

theorem count_listedPages (items : List PageItem) (p : Nat) :
    (listedPages items).count p = items.count (.page p) := by
  induction items with
  | nil => rfl
  | cons item items ih =>
      cases item with
      | page n => simpa [listedPages, List.count_cons] using ih
      | ellipsis => simpa [listedPages, List.count_cons] using ih

theorem head?_withEllipses (pages : List Nat) :
    (withEllipses pages).head? = pages.head?.map .page := by
  fun_cases withEllipses pages <;> rfl

theorem getLast?_withEllipses (pages : List Nat) :
    (withEllipses pages).getLast? = pages.getLast?.map .page := by
  fun_induction withEllipses pages with
  | case1 => rfl
  | case2 p => rfl
  | case3 p q rest hGap ih | case4 p q rest hNext ih =>
      obtain ⟨others, hOthers⟩ := exists_withEllipses_cons q rest
      rw [hOthers] at ih ⊢
      simpa using ih

theorem not_two_ellipses (pages : List Nat) :
    ¬[.ellipsis, .ellipsis] <:+: withEllipses pages := by
  fun_induction withEllipses pages with
  | case1 => simp
  | case2 p => simp [List.infix_cons_iff]
  | case3 p q rest hGap ih | case4 p q rest hNext ih =>
      obtain ⟨others, hOthers⟩ := exists_withEllipses_cons q rest
      rw [hOthers] at ih ⊢
      simpa [List.infix_cons_iff] using ih

/-- Around an ellipsis there are two pages with a gap between them. -/
theorem gap_of_ellipsis {pages : List Nat} {p q : Nat}
    (h : [.page p, .ellipsis, .page q] <:+: withEllipses pages) : p + 1 < q := by
  fun_induction withEllipses pages with
  | case1 => simp at h
  | case2 => simp [List.infix_cons_iff] at h
  | case3 first second rest hGap ih =>
      obtain ⟨others, hOthers⟩ := exists_withEllipses_cons second rest
      rw [hOthers] at ih h
      rcases List.infix_cons_iff.mp h with hHere | hLater
      · simp only [List.cons_prefix_cons, PageItem.page.injEq] at hHere
        obtain ⟨rfl, -, rfl, -⟩ := hHere
        exact hGap
      · rcases List.infix_cons_iff.mp hLater with hNone | hLater
        · simp at hNone
        · exact ih hLater
  | case4 first second rest hNext ih =>
      obtain ⟨others, hOthers⟩ := exists_withEllipses_cons second rest
      rw [hOthers] at ih h
      rcases List.infix_cons_iff.mp h with hNone | hLater
      · simp at hNone
      · exact ih hLater

theorem exists_withEllipses_append (before : List Nat) (p : Nat) (rest : List Nat) :
    ∃ front, withEllipses (before ++ p :: rest) = front ++ withEllipses (p :: rest) := by
  induction before with
  | nil => exact ⟨[], rfl⟩
  | cons a before ih =>
      obtain ⟨front, hFront⟩ := ih
      obtain ⟨b, others, hOthers⟩ : ∃ b others, before ++ p :: rest = b :: others := by
        cases before <;> exact ⟨_, _, rfl⟩
      rw [hOthers] at hFront
      rw [List.cons_append, hOthers, withEllipses_cons_cons, hFront, ← List.append_assoc]
      exact ⟨_, rfl⟩

/-- An ellipsis stands between two numbers that follow each other exactly if there is a gap. -/
theorem ellipsis_iff {before after : List Nat} {p q : Nat} :
    [.page p, .ellipsis, .page q] <:+: withEllipses (before ++ p :: q :: after) ↔ p + 1 < q := by
  constructor
  · exact gap_of_ellipsis
  · intro hGap
    obtain ⟨front, hFront⟩ := exists_withEllipses_append before p (q :: after)
    obtain ⟨others, hOthers⟩ := exists_withEllipses_cons q after
    refine ⟨front, others, ?_⟩
    rw [hFront, withEllipses_cons_cons, if_pos hGap, hOthers]
    simp

/-! Which pages are offered. -/

theorem mem_offeredPages_iff {current total p : Nat} (hMany : maxFullPageList < total) :
    p ∈ offeredPages current total ↔ p = 1 ∨ p = 2 ∨
      (max (current - 1) 3 ≤ p ∧ p ≤ min (min maxWord (current + 1)) (total - 2)) ∨
      p = total - 1 ∨ p = total := by
  have hWindow (first last : Nat) :
      p ∈ List.range' first (last + 1 - first) ↔ first ≤ p ∧ p ≤ last := by
    rw [List.mem_range'_1]
    omega
  rw [offeredPages, if_neg (Nat.not_le_of_lt hMany)]
  simp only [List.mem_append, List.mem_cons, hWindow, List.not_mem_nil, or_false, or_assoc]

theorem offeredPages_increasing (current total : Nat) :
    (offeredPages current total).Pairwise (· < ·) := by
  unfold offeredPages
  split
  · exact List.pairwise_lt_range'
  · next hMany =>
      simp only [maxFullPageList] at hMany
      dsimp only
      rw [List.pairwise_append, List.pairwise_append]
      refine ⟨⟨by simp, List.pairwise_lt_range', ?_⟩, by simp; omega, ?_⟩
      · simp only [List.mem_cons, List.mem_range'_1, List.not_mem_nil, or_false]
        omega
      · simp only [List.mem_append, List.mem_cons, List.mem_range'_1, List.not_mem_nil, or_false]
        omega

/-- The current page is offered, and so are the pages on both sides of it, if they exist. -/
theorem mem_offeredPages_near {current total p : Nat} (hTotal : total ≤ maxWord)
    (hFirst : 1 ≤ p) (hLast : p ≤ total) (hBelow : current ≤ p + 1) (hAbove : p ≤ current + 1) :
    p ∈ offeredPages current total := by
  by_cases hFew : total ≤ maxFullPageList
  · rw [offeredPages, if_pos hFew, List.mem_range'_1]
    omega
  · rw [mem_offeredPages_iff (Nat.lt_of_not_le hFew)]
    omega

theorem length_pageNumbers_le {current total : Nat} (hMany : maxFullPageList < total) :
    (pageNumbers current total).length ≤ 9 := by
  rw [pageNumbers, if_neg (Nat.not_le_of_lt hMany)]
  simp only [List.length_append, List.length_map, List.length_range', List.length_cons,
    List.length_nil]
  split <;> split <;> simp <;> omega

/-- The list shows the current page once if the table has it, and not at all otherwise. -/
theorem count_current_pageNumbers (current : Nat) {total : Nat} (hTotal : total ≤ maxWord) :
    (pageNumbers current total).count (.page current) =
      if 1 ≤ current ∧ current ≤ total then 1 else 0 := by
  split
  · next hInside =>
      have hNear : current ∈ offeredPages current total :=
        mem_offeredPages_near hTotal hInside.1 hInside.2 (by omega) (by omega)
      have hDistinct : (offeredPages current total).Nodup :=
        (offeredPages_increasing current total).imp Nat.ne_of_lt
      rw [← count_listedPages, pageNumbers_eq_withEllipses current hTotal,
        listedPages_withEllipses, List.count_eq_one_of_mem hDistinct hNear]
  · next hOutside =>
      rw [List.count_eq_zero]
      exact fun hShown => hOutside (mem_pageNumbers_bounds hShown)

/-- The links of a laid out table mark as many places as the current page has in the list. -/
theorem countP_current_pages (s : ScreenState) (view : TableView) :
    (Page.ResultsTable.ofView s view).pages.countP Page.PageLink.current =
      (pageNumbers view.page view.totalPages).count (.page view.page) := by
  have hMark : Page.PageLink.current ∘ Page.pageLink s view.page = (· == .page view.page) := by
    funext item
    cases item with
    | page n => simp [Page.pageLink]
    | ellipsis => rfl
  rw [Page.ResultsTable.ofView, List.countP_map, hMark, List.count]

/-- What a list of page links beside a current page must be. -/
structure SummarisesPages (current total : Nat) (items : List PageItem) : Prop where
  increasing : (listedPages items).Pairwise (· < ·)
  existing : ∀ p ∈ listedPages items, 1 ≤ p ∧ p ≤ total
  few : total ≤ 7 → ∀ p, 1 ≤ p → p ≤ total → p ∈ listedPages items
  ends : 7 < total → ∀ p ∈ [1, 2, total - 1, total], p ∈ listedPages items
  near : ∀ p, 1 ≤ p → p ≤ total → current ≤ p + 1 → p ≤ current + 1 → p ∈ listedPages items
  once : items.count (.page current) = if 1 ≤ current ∧ current ≤ total then 1 else 0
  gaps : ∀ before p q after, listedPages items = before ++ p :: q :: after →
    ([.page p, .ellipsis, .page q] <:+: items ↔ p + 1 < q)
  inside : items.head? ≠ some .ellipsis ∧ items.getLast? ≠ some .ellipsis ∧
    ¬[.ellipsis, .ellipsis] <:+: items
  short : 7 < total → items.length ≤ 9

/-- The list of page links summarises all pages, and nothing stops it from being computed by
words, whatever the current page and the number of pages are. A laid out table marks the current
page in it if there is such a page, and nothing else. -/
theorem pageNumbers_summarise (current total : UInt64) :
    Words.pageNumbers current total = .ok (pageNumbers current.toNat total.toNat) ∧
      SummarisesPages current.toNat total.toNat (pageNumbers current.toNat total.toNat) ∧
      ∀ (s : ScreenState) (rows : List Stock) (pageSize totalRows : Nat),
        let view : TableView := ⟨rows, current.toNat, pageSize, totalRows, total.toNat⟩
        (Page.ResultsTable.ofView s view).pages.countP Page.PageLink.current =
          if 1 ≤ view.page ∧ view.page ≤ view.totalPages then 1 else 0 := by
  refine ⟨Words.pageNumbers_eq current total, ?_⟩
  have hTotal : total.toNat ≤ maxWord := Words.toNat_le_maxWord total
  generalize current.toNat = current at *
  generalize total.toNat = total at *
  have hShape := pageNumbers_eq_withEllipses current hTotal
  have hListed : listedPages (pageNumbers current total) = offeredPages current total := by
    rw [hShape, listedPages_withEllipses]
  have hOnce := count_current_pageNumbers current hTotal
  refine ⟨?_, fun s rows pageSize totalRows => (countP_current_pages s _).trans hOnce⟩
  constructor
  case increasing => exact hListed ▸ offeredPages_increasing current total
  case existing => exact fun p hp => mem_pageNumbers_bounds (mem_listedPages_iff.mp hp)
  case few =>
    intro hFew p hFirst hLast
    rw [hListed, offeredPages, if_pos (show total ≤ maxFullPageList from hFew),
      List.mem_range'_1]
    omega
  case ends =>
    intro hMany p hp
    rw [hListed, mem_offeredPages_iff hMany]
    simp only [List.mem_cons, List.not_mem_nil, or_false] at hp
    omega
  case near =>
    intro p hFirst hLast hBelow hAbove
    exact hListed ▸ mem_offeredPages_near hTotal hFirst hLast hBelow hAbove
  case once => exact hOnce
  case gaps =>
    intro before p q after hPages
    rw [hShape, ← hListed, hPages]
    exact ellipsis_iff
  case inside =>
    rw [hShape, head?_withEllipses, getLast?_withEllipses]
    exact ⟨by simp, by simp, not_two_ellipses _⟩
  case short => exact length_pageNumbers_le

end EquityScreen
