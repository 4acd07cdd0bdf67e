import EquityScreen.Proofs.EscapedTexts
import EquityScreen.Proofs.Shells

/-! The outline of a screener page. It follows from what the page is made of without its
texts: its message, how many fields and rows it has, and where its links are. Whatever
texts a query, an address or the stock data bring, they fill gaps of that outline. -/
namespace EquityScreen.Page

namespace ScreenerPage

/-- The names and values of the hidden fields that carry the sort. -/
def sortValues (page : ScreenerPage) : List String :=
  page.sortFields.flatMap fun (name, value) => [name, value]

/-- The values behind the message of a page: those of the search form, the table and the
links. -/
def resultsValues (page : ScreenerPage) (results : ResultsTable) : List String :=
  page.query :: page.sortValues ++ [page.search]
    ++ results.headers.flatMap (fun header =>
      [header.ariaSort, header.href, header.label, header.indicator])
    ++ results.rows.flatten
    ++ results.firstHref.toList ++ results.prevHref.toList
    ++ results.pages.flatMap (fun link => link.href.toList ++ [link.label])
    ++ results.nextHref.toList ++ results.lastHref.toList ++ [results.summary]

/-- The values of a screener page from its start to its end. -/
def values (page : ScreenerPage) : List String :=
  page.query :: page.sortValues
    ++ page.alert.elim [] (fun alert => [alert.kind, alert.title, alert.message])
    ++ page.results.elim [] page.resultsValues

end ScreenerPage

theorem values_hiddenFields (fields : List (String × String)) :
    values (hiddenFields fields) = fields.flatMap fun (name, value) => [name, value] := by
  rw [hiddenFields, values_flatMap]
  rfl

theorem values_headerCellHtml (header : HeaderCell) :
    values (headerCellHtml header) =
      [header.ariaSort, header.href, header.label, header.indicator] := rfl

theorem values_rowHtml (row : List String) : values (rowHtml row) = row := by
  simp [rowHtml]

theorem values_stepLink (name mark : String) (href : Option String) :
    values (stepLink name mark href) = href.toList := by
  cases href <;> rfl

theorem values_pageLinkHtml (link : PageLink) :
    values (pageLinkHtml link) = link.href.toList ++ [link.label] := by
  obtain ⟨label, href, current⟩ := link
  cases href <;> cases current <;> rfl

theorem values_resultsHtml (page : ScreenerPage) (results : ResultsTable) :
    values (resultsHtml page results) = page.resultsValues results := by
  simp [resultsHtml, searchForm, tableHtml, paginationHtml, values_hiddenFields,
    values_headerCellHtml, values_rowHtml, values_stepLink, values_pageLinkHtml,
    ScreenerPage.resultsValues, ScreenerPage.sortValues]

theorem values_html (page : ScreenerPage) : values page.html = page.values := by
  rw [html_eq, ScreenerPage.values]
  cases page.alert <;> cases page.results <;>
    simp [queryForm, alertBox, values_hiddenFields, values_resultsHtml, ScreenerPage.sortValues]

/-! What a page is made of, its texts apart. -/

/-- The rows of a table and its links: for each place in the list of pages, whether it has
an address and whether it is the current one, and which of the four steps are offered. -/
structure ResultsLayout where
  rows : Nat
  pages : List (Bool × Bool)
  first : Bool
  prev : Bool
  next : Bool
  last : Bool
deriving DecidableEq, Repr

structure Layout where
  alert : Option Alert
  sortFields : Nat
  results : Option ResultsLayout
deriving DecidableEq, Repr

def ResultsTable.layout (results : ResultsTable) : ResultsLayout where
  rows := results.rows.length
  pages := results.pages.map fun link => (link.href.isSome, link.current)
  first := results.firstHref.isSome
  prev := results.prevHref.isSome
  next := results.nextHref.isSome
  last := results.lastHref.isSome

def ScreenerPage.layout (page : ScreenerPage) : Layout where
  alert := page.alert
  sortFields := page.sortFields.length
  results := page.results.map ResultsTable.layout

/-- An address without text, where there is one. -/
def bareHref (offered : Bool) : Option String := if offered then some "" else none

def bareRow : List String := List.replicate Column.all.length ""

/-- The table of a layout with no text in it. -/
def ResultsLayout.bare (l : ResultsLayout) : ResultsTable where
  headers := List.replicate Column.all.length ⟨"", "", "", ""⟩
  rows := List.replicate l.rows bareRow
  pages := l.pages.map fun (offered, current) => ⟨"", bareHref offered, current⟩
  firstHref := bareHref l.first
  prevHref := bareHref l.prev
  nextHref := bareHref l.next
  lastHref := bareHref l.last
  summary := ""

/-- The page of a layout with no text in it, its message apart. -/
def Layout.bare (l : Layout) : ScreenerPage where
  query := ""
  search := ""
  sortFields := List.replicate l.sortFields ("", "")
  alert := l.alert
  results := l.results.map ResultsLayout.bare

/-- There is a header and in each row a cell for every column. -/
structure ResultsTable.Regular (results : ResultsTable) : Prop where
  headers : results.headers.length = Column.all.length
  rows : ∀ row ∈ results.rows, row.length = Column.all.length

theorem outline_hiddenFields (fields : List (String × String)) :
    outline (hiddenFields fields) =
      outline (hiddenFields (List.replicate fields.length ("", ""))) :=
  outline_flatMap_replicate fun _ _ => rfl

theorem outline_headers {headers : List HeaderCell} (h : headers.length = Column.all.length) :
    outline (headers.flatMap headerCellHtml) =
      outline ((List.replicate Column.all.length ⟨"", "", "", ""⟩).flatMap headerCellHtml) := by
  rw [← h]
  exact outline_flatMap_replicate fun _ _ => rfl

theorem outline_rowHtml {row : List String} (h : row.length = Column.all.length) :
    outline (rowHtml row) = outline (rowHtml bareRow) := by
  have hCells : outline (row.flatMap fun cell => [.markup "<td>", .text cell, .markup "</td>"]) =
      outline ((List.replicate row.length "").flatMap fun cell =>
        [.markup "<td>", .text cell, .markup "</td>"]) :=
    outline_flatMap_replicate fun _ _ => rfl
  rw [rowHtml, rowHtml, bareRow, ← h, outline_append, outline_append, hCells, outline_append,
    outline_append]

theorem outline_rows {rows : List (List String)}
    (h : ∀ row ∈ rows, row.length = Column.all.length) :
    outline (rows.flatMap rowHtml) =
      outline ((List.replicate rows.length bareRow).flatMap rowHtml) :=
  outline_flatMap_replicate fun row hRow => outline_rowHtml (h row hRow)

theorem outline_stepLink (name mark : String) (href : Option String) :
    outline (stepLink name mark href) = outline (stepLink name mark (bareHref href.isSome)) := by
  cases href <;> rfl

theorem outline_pageLinkHtml (link : PageLink) :
    outline (pageLinkHtml link) =
      outline (pageLinkHtml ⟨"", bareHref link.href.isSome, link.current⟩) := by
  obtain ⟨label, href, current⟩ := link
  cases href <;> cases current <;> rfl

theorem outline_pages (pages : List PageLink) :
    outline (pages.flatMap fun link =>
        [.markup "\n    "] ++ pageLinkHtml link ++ [.markup "\n  "]) =
      outline ((pages.map fun link => ⟨"", bareHref link.href.isSome, link.current⟩).flatMap
        fun link => [.markup "\n    "] ++ pageLinkHtml link ++ [.markup "\n  "]) := by
  refine outline_flatMap_map fun link _ => ?_
  rw [outline_append, outline_append, outline_pageLinkHtml, outline_append, outline_append]

theorem outline_queryForm (page : ScreenerPage) :
    outline (queryForm page) = outline (queryForm page.layout.bare) := by
  simp only [queryForm, outline_append, outline_markup, outline_text, outline_nil,
    outline_hiddenFields page.sortFields, ScreenerPage.layout, Layout.bare]

theorem outline_searchForm (page : ScreenerPage) :
    outline (searchForm page) = outline (searchForm page.layout.bare) := by
  simp only [searchForm, outline_append, outline_markup, outline_text, outline_nil,
    outline_hiddenFields page.sortFields, ScreenerPage.layout, Layout.bare]

theorem outline_tableHtml {results : ResultsTable} (h : results.Regular) :
    outline (tableHtml results) = outline (tableHtml results.layout.bare) := by
  simp only [tableHtml, outline_append, outline_headers h.headers, outline_rows h.rows,
    ResultsTable.layout, ResultsLayout.bare]

theorem outline_paginationHtml (results : ResultsTable) :
    outline (paginationHtml results) = outline (paginationHtml results.layout.bare) := by
  simp only [paginationHtml, outline_append, outline_pages results.pages,
    outline_stepLink _ _ results.firstHref, outline_stepLink _ _ results.prevHref,
    outline_stepLink _ _ results.nextHref, outline_stepLink _ _ results.lastHref,
    outline_markup, outline_text, outline_nil, ResultsTable.layout, ResultsLayout.bare,
    List.map_map, Function.comp_def]

/-- The outline of a page is that of the bare page of its layout. -/
theorem outline_html {page : ScreenerPage} (h : ∀ results ∈ page.results, results.Regular) :
    outline page.html = outline page.layout.bare.html := by
  have hResults : outline (page.results.elim [] (resultsHtml page)) =
      outline (page.layout.bare.results.elim [] (resultsHtml page.layout.bare)) := by
    have hBare : page.layout.bare.results =
        page.results.map fun results => results.layout.bare := Option.map_map _ _ _
    cases hSome : page.results with
    | none => rw [hBare, hSome]; rfl
    | some results =>
        rw [hBare, hSome, Option.map_some, Option.elim_some, Option.elim_some]
        simp only [resultsHtml, outline_append, outline_searchForm page,
          outline_tableHtml (h results hSome), outline_paginationHtml results]
  rw [html_eq, html_eq]
  simp only [outline_append, outline_queryForm page, hResults]
  rfl

end EquityScreen.Page
