import EquityScreen.Page.Screener
import EquityScreen.Proofs.AddressRoundTrip
import EquityScreen.Proofs.Paging

/-! The controls of the rendered page carry out the transitions of the state. A link
is followed by reading its address; a form is submitted by encoding its fields, as
they stand on the page, into an address. -/
namespace EquityScreen.Page

open ScreenState

/-- The results table shown for a state. -/
def ResultsTable.ofRows (rows : List Stock) (pageSize : Nat) (s : ScreenState) : ResultsTable :=
  .ofView s (.ofRows rows s.table pageSize)

/-- The fields of the query form when a text has been typed into it. -/
def queryFormFields (page : ScreenerPage) (typed : String) : List (String × String) :=
  (queryParam, typed) :: page.sortFields

/-- The fields of the search form when a text has been typed into it. -/
def searchFormFields (page : ScreenerPage) (typed : String) : List (String × String) :=
  (queryParam, page.query) :: page.sortFields ++ [(searchParam, typed)]

/-- The state that submitting a form leads to. -/
def submit (fields : List (String × String)) : ScreenState :=
  ofQueryString (String.ofList (Form.serialize fields))

/-- What a header says about its column: a direction if the table is sorted by it. -/
def sortMarks (sort : Option SortConfig) (column : Column) : String × String :=
  if sort = some ⟨column, .ascending⟩ then ("ascending", "▲")
  else if sort = some ⟨column, .descending⟩ then ("descending", "▼")
  else ("none", "")

/-- A state seen through an address: the search loses the white space around it. -/
def atPage (s : ScreenState) (page : Nat) : ScreenState :=
  s.withTable ⟨s.table.sort, page, Text.trimString s.table.search⟩

theorem ofQueryString_pageHref (s : ScreenState) {page : Nat} (hFirst : 1 ≤ page)
    (hWord : page < 2 ^ 64) : ofQueryString (pageHref s page) = atPage s page :=
  ofQueryString_href (s := s.withTable (s.table.withPage page)) hFirst hWord

theorem atPage_of_trimmed {s : ScreenState}
    (hTrimmed : Text.trimString s.table.search = s.table.search) (page : Nat) :
    atPage s page = s.withTable (s.table.withPage page) := by
  rw [atPage, hTrimmed]
  rfl

/-- Sorting starts from the first page, so the address of a header always fits. -/
theorem ofQueryString_headerCell {s : ScreenState}
    (hTrimmed : Text.trimString s.table.search = s.table.search) (column : Column) :
    ofQueryString (headerCell s column).href = s.withTable (s.table.toggleSort column) := by
  have hWord : (s.withTable (s.table.toggleSort column)).table.page < 2 ^ 64 :=
    Nat.one_lt_two_pow (by decide)
  have hRead : ofQueryString (headerCell s column).href =
      s.withTable ⟨(s.table.toggleSort column).sort, 1, Text.trimString s.table.search⟩ :=
    ofQueryString_href (le_refl 1) hWord
  rw [hRead, hTrimmed]
  rfl

theorem sortMarks_headerCell (s : ScreenState) (column : Column) :
    ((headerCell s column).ariaSort, (headerCell s column).indicator) =
      sortMarks s.table.sort column := by
  unfold headerCell TableState.sortDirection? sortMarks
  cases hSort : s.table.sort with
  | none => rfl
  | some sort =>
      obtain ⟨sorted, direction⟩ := sort
      by_cases hColumn : sorted = column
      · subst hColumn
        cases direction <;> simp [ariaSort, indicator, SortDirection.identifier, Option.filter]
      · simp [hColumn, ariaSort, indicator, Option.filter]

theorem toString_injective {m n : Nat} (h : toString m = toString n) : m = n := by
  rw [← digitsValue_toString m, h, digitsValue_toString]

/-- A page link that leads somewhere is labelled with the page that it leads to. -/
theorem ofQueryString_pageLink {s : ScreenState} {rows : List Stock} {pageSize : Nat}
    (hRows : rows.length < 2 ^ 64) {link : PageLink}
    (hLink : link ∈ (ResultsTable.ofRows rows pageSize s).pages) {href : String}
    (hHref : link.href = some href) :
    ∃ n, link.label = toString n ∧ ofQueryString href = atPage s n ∧ 1 ≤ n ∧
      n ≤ (TableView.ofRows rows s.table pageSize).totalPages ∧ n ≠ s.table.page := by
  obtain ⟨item, hItem, rfl⟩ := List.mem_map.mp hLink
  cases item with
  | ellipsis => exact absurd hHref (by simp [pageLink])
  | page n =>
      obtain ⟨hFirst, hLast⟩ := mem_pageNumbers_bounds hItem
      have hPages := totalPages_le (s.table.visibleRows rows).length pageSize
      have hVisible := s.table.length_visibleRows_le rows
      have hOther : n ≠ s.table.page := by
        rintro rfl
        simp [pageLink, TableView.ofRows] at hHref
      have hTarget : pageHref s n = href := by
        simpa [pageLink, TableView.ofRows, hOther] using hHref
      refine ⟨n, rfl, ?_, hFirst, hLast, hOther⟩
      rw [← hTarget, ofQueryString_pageHref s hFirst]
      exact lt_of_le_of_lt (hLast.trans (hPages.trans hVisible)) hRows

/-- Both forms send a query and the hidden fields of the sort, never a page. What
the rest of a form may add is a search. -/
theorem ofParams_formFields (s : ScreenState) (query : String) (rest : List (String × String))
    (hPage : rest.lookup pageParam = none) (hKey : rest.lookup sortKeyParam = none)
    (hDirection : rest.lookup sortDirectionParam = none) :
    ofParams ((queryParam, query) :: s.sortFields ++ rest) =
      ⟨query, s.table.sort, 1, Text.trimString ((rest.lookup searchParam).getD "")⟩ := by
  have hNoPage := s.lookup_sortFields_other pageParam (by decide) (by decide)
  have hNoSearch := s.lookup_sortFields_other searchParam (by decide) (by decide)
  have hPageName : (pageParam == queryParam) = false := by decide
  have hSearchName : (searchParam == queryParam) = false := by decide
  have hKeyName : (sortKeyParam == queryParam) = false := by decide
  have hDirectionName : (sortDirectionParam == queryParam) = false := by decide
  simp only [ofParams, List.cons_append, List.lookup_cons, beq_self_eq_true, hPageName,
    hSearchName, hKeyName, hDirectionName, List.lookup_append, hNoPage, hNoSearch, hPage, hKey,
    hDirection, Option.or_none, Option.none_or, sortOfParams_sortFields, Option.getD_some]
  rfl

theorem submit_queryFormFields (s : ScreenState) (typed : String) :
    submit (queryFormFields (.ofState s) typed) = s.submitQuery typed := by
  have hForm := ofParams_formFields s typed [] rfl rfl rfl
  rw [List.append_nil] at hForm
  exact (ofQueryString_serialize _).trans hForm

theorem submit_searchFormFields (s : ScreenState) (typed : String) :
    submit (searchFormFields (.ofState s) typed) = s.withTable (s.table.applySearch typed) := by
  have hForm := ofParams_formFields s s.query [(searchParam, typed)] rfl rfl rfl
  exact (ofQueryString_serialize _).trans hForm

/-- What the page of a state must do: each control leads to the state that the
transition of its name leads to. -/
structure ControlsImplement (rows : List Stock) (pageSize : Nat) (s : ScreenState) : Prop where
  headerCount : (ResultsTable.ofRows rows pageSize s).headers.length = Column.all.length
  header : ∀ (i : Nat) (column : Column), Column.all[i]? = some column →
    ∃ header, (ResultsTable.ofRows rows pageSize s).headers[i]? = some header ∧
      ofQueryString header.href = s.withTable (s.table.toggleSort column) ∧
      (header.ariaSort, header.indicator) = sortMarks s.table.sort column
  pageLink : ∀ link ∈ (ResultsTable.ofRows rows pageSize s).pages, ∀ href,
    link.href = some href → (∃ n : Nat, link.label = toString n) ∧
      ∀ n : Nat, link.label = toString n →
        ofQueryString href = s.withTable (s.table.withPage n)
  queryForm : ∀ typed, submit (queryFormFields (.ofState s) typed) = s.submitQuery typed
  searchForm : ∀ typed,
    submit (searchFormFields (.ofState s) typed) = s.withTable (s.table.applySearch typed)

/-- Links of headers and pages and both forms implement the state machine, for every
state with a trimmed search and every list of rows that a machine can hold. -/
theorem controls_implement {rows : List Stock} (hRows : rows.length < 2 ^ 64) (pageSize : Nat)
    {s : ScreenState} (hTrimmed : Text.trimString s.table.search = s.table.search) :
    ControlsImplement rows pageSize s where
  headerCount := List.length_map _
  header := by
    intro i column hColumn
    refine ⟨headerCell s column, ?_, ofQueryString_headerCell hTrimmed column,
      sortMarks_headerCell s column⟩
    change (Column.all.map (headerCell s))[i]? = some (headerCell s column)
    rw [List.getElem?_map, hColumn]
    rfl
  pageLink := by
    intro link hLink href hHref
    obtain ⟨n, hLabel, hRead, _⟩ := ofQueryString_pageLink hRows hLink hHref
    refine ⟨⟨n, hLabel⟩, fun m hOther => ?_⟩
    have hSame : m = n := toString_injective (hOther.symm.trans hLabel)
    rw [hRead, atPage_of_trimmed hTrimmed, hSame]
  queryForm := submit_queryFormFields s
  searchForm := submit_searchFormFields s

/-- Twelve rows on pages of five, sorted and searched, seen from the second page. -/
theorem controls_implement_second_page :
    (List.replicate 12 (Stock.ofTicker "A&B")).length < 2 ^ 64 ∧
    Text.trimString "a b" = "a b" ∧
    ControlsImplement (List.replicate 12 (Stock.ofTicker "A&B")) 5
      ⟨"roe > 1\nAND", some ⟨.metric .roe, .descending⟩, 2, "a b"⟩ := by
  have hRows : (List.replicate 12 (Stock.ofTicker "A&B")).length < 2 ^ 64 := by
    rw [List.length_replicate]
    decide
  have hTrimmed : Text.trimString "a b" = "a b" := rfl
  exact ⟨hRows, hTrimmed, controls_implement hRows 5 hTrimmed⟩

end EquityScreen.Page
