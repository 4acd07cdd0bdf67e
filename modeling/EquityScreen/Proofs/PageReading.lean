import EquityScreen.Web.Router
import EquityScreen.Proofs.MarkedText

/-! What is seen of a screener page. The messages, the table with its cells, the place in
the pages and what the forms carry are read off the text of a response by fixed marks,
and are what the page was made of. Texts of users and of stock data can add nothing to
it and hide nothing of it. -/
namespace EquityScreen.Page

/-- In front of the query in the form that submits it. -/
def queryMark : Mark :=
  ⟨"<textarea id=\"query\" name=\"query\" placeholder=\"Market Capitalization > 10000 AND\nROE > 15\">",
    _, rfl, rfl, rfl⟩

/-- In front of the name of a hidden field. -/
def hiddenMark : Mark := ⟨"<input type=\"hidden\" name=\"", _, rfl, rfl, rfl⟩

/-- Where texts stand on a page: the kind of a message, the class of a table, a cell, the
place of the page among all, and the query and the search in their forms. -/
inductive Place where
  | alert
  | table
  | cell
  | summary
  | query
  | search
deriving DecidableEq, Repr

namespace Place

def all : List Place := [alert, table, cell, summary, query, search]

theorem mem_all (place : Place) : place ∈ all := by
  cases place <;> decide

/-- What stands in front of a text in its place. -/
def mark : Place → Mark
  | alert => ⟨"<div class=\"alert alert-", _, rfl, rfl, rfl⟩
  | table => ⟨"<table class=\"", _, rfl, rfl, rfl⟩
  | cell => ⟨"<td>", _, rfl, rfl, rfl⟩
  | summary => ⟨"<span class=\"summary\">", _, rfl, rfl, rfl⟩
  | query => queryMark
  | search => ⟨"<input type=\"search\" name=\"search\" value=\"", _, rfl, rfl, rfl⟩

/-- The markup around a text has the mark of its place in front of the text, and no mark
elsewhere. -/
def frames (place : Place) (before front back : List Char) : Bool :=
  front == before ++ place.mark.chars && misses place.mark.chars before
    && back.head?.map isMarkupChar == some true && misses place.mark.chars back
    && (all.all fun other =>
      other == place || (misses other.mark.chars front && misses other.mark.chars back))
    && (misses hiddenMark.chars front && misses hiddenMark.chars back)

end Place

/-- The name and the value of a hidden field, from its name on. -/
def fieldOf (cs : List Char) : String × String :=
  (textOf cs, textOf ((cs.drop (plainPart cs).length).drop "\" value=\"".length))

/-- What is seen of a page: the texts in every place, and the hidden fields of its forms. -/
@[ext] structure Seen where
  texts : Place → List String
  hidden : List (String × String)

namespace Seen

def none : Seen := ⟨fun _ => [], []⟩

/-- Texts of one place alone. -/
def only (place : Place) (texts : List String) : Seen :=
  ⟨fun other => if other = place then texts else [], []⟩

/-- Hidden fields alone. -/
def fields (fields : List (String × String)) : Seen := ⟨fun _ => [], fields⟩

/-- What is seen of two parts, one behind the other. -/
def append (first second : Seen) : Seen :=
  ⟨fun place => first.texts place ++ second.texts place, first.hidden ++ second.hidden⟩

instance : Append Seen := ⟨append⟩

@[simp] theorem texts_append (first second : Seen) (place : Place) :
    (first ++ second).texts place = first.texts place ++ second.texts place := rfl

@[simp] theorem hidden_append (first second : Seen) :
    (first ++ second).hidden = first.hidden ++ second.hidden := rfl

theorem append_assoc (first second third : Seen) :
    first ++ second ++ third = first ++ (second ++ third) := by
  ext <;> simp

theorem append_none (seen : Seen) : seen ++ none = seen := by
  ext <;> simp [none]

theorem only_nil (place : Place) : only place [] = none := by
  ext <;> simp [only, none]

theorem only_append (place : Place) (first second : List String) :
    only place (first ++ second) = only place first ++ only place second := by
  ext other <;> simp [only, apply_ite₂]

def ofChars (cs : List Char) : Seen :=
  ⟨fun place => place.mark.readAll textOf cs, hiddenMark.readAll fieldOf cs⟩

/-- What is seen of the text of a page. -/
def ofBody (body : String) : Seen := ofChars body.toList

end Seen

/-- A part of a page shows something, whatever stands behind it. -/
def Shows (html : Html) (seen : Seen) : Prop :=
  ∀ rest, Seen.ofChars (render html ++ rest) = seen ++ Seen.ofChars rest

/-- The marks of all that is seen. -/
def seenMarks : List Mark := hiddenMark :: Place.all.map Place.mark

theorem mark_mem_seenMarks (place : Place) : place.mark ∈ seenMarks :=
  List.mem_cons_of_mem _ (List.mem_map_of_mem place.mem_all)

namespace Shows

theorem append {first second : Html} {before after : Seen} (hFirst : Shows first before)
    (hSecond : Shows second after) : Shows (first ++ second) (before ++ after) := by
  intro rest
  rw [render_append, List.append_assoc, hFirst, hSecond, Seen.append_assoc]

/-- Parts that render alike show alike. -/
theorem of_render {html html' : Html} {seen : Seen} (h : Shows html seen)
    (hRender : render html' = render html) : Shows html' seen := by
  intro rest
  rw [hRender, h]

theorem of_plain {html : Html} (h : plainMarkup seenMarks html = true) : Shows html .none := by
  intro rest
  refine Seen.ext (funext fun place => ?_) ?_
  · exact Mark.readAll_of_plain h (mark_mem_seenMarks place) textOf rest
  · exact Mark.readAll_of_plain h List.mem_cons_self fieldOf rest

/-- Parts of which each shows texts in one place. -/
theorem flatMap {β : Type} {place : Place} {html : β → Html} {texts : β → List String}
    (h : ∀ item, Shows (html item) (.only place (texts item))) (items : List β) :
    Shows (items.flatMap html) (.only place (items.flatMap texts)) := by
  induction items with
  | nil => exact Seen.only_nil place ▸ .of_plain rfl
  | cons item items ih =>
      rw [List.flatMap_cons, List.flatMap_cons, Seen.only_append]
      exact (h item).append ih

/-- A text shows in its place if the markup around it has the mark of that place in front of
it, and no other mark. -/
theorem text (place : Place) (before : List Char) {front back : String}
    (h : place.frames before front.toList back.toList = true) (s : String) :
    Shows [.markup front, .text s, .markup back] (.only place [s]) := by
  simp only [Place.frames, Bool.and_eq_true, List.all_eq_true, Bool.or_eq_true, beq_iff_eq] at h
  obtain ⟨⟨⟨⟨⟨hFront, hFirst⟩, hBack⟩, hLast⟩, hOthers⟩, hHidden⟩ := h
  have hPlain {mark : Mark}
      (hBoth : misses mark.chars front.toList = true ∧ misses mark.chars back.toList = true) :
      plainMarkup [mark] [.markup front, .text s, .markup back] = true := by
    simp [missesAll, hBoth]
  intro rest
  refine Seen.ext (funext fun other => ?_)
    (Mark.readAll_of_plain (hPlain hHidden) List.mem_cons_self fieldOf rest)
  change other.mark.readAll textOf _ = (if other = place then [s] else []) ++ _
  split_ifs with hPlace
  · rw [hPlace]
    exact Mark.readAll_text hFront hFirst hBack hLast s rest
  · have hOther := (hOthers other other.mem_all).resolve_left hPlace
    exact Mark.readAll_of_plain (hPlain hOther) List.mem_cons_self textOf rest

/-- Plain markup in front of a part changes nothing of what it shows. -/
theorem front (first : Html) {html : Html} {seen : Seen}
    (hFirst : plainMarkup seenMarks first = true) (h : Shows html seen) :
    Shows (first ++ html) seen :=
  (of_plain hFirst).append h

/-- Plain markup behind a part changes nothing either. -/
theorem back {html last : Html} {seen : Seen} (h : Shows html seen)
    (hLast : plainMarkup seenMarks last = true) : Shows (html ++ last) seen :=
  seen.append_none ▸ h.append (of_plain hLast)

end Shows

/-! Parts with no mark in them, and no tag of a document either. -/

/-- The tags that a document has around its page. No page has any of them. -/
def documentMarks : List Mark :=
  [⟨"<!DOCTYPE", _, rfl, rfl, rfl⟩, ⟨"<html", _, rfl, rfl, rfl⟩, ⟨"<head", _, rfl, rfl, rfl⟩,
    ⟨"<meta", _, rfl, rfl, rfl⟩, ⟨"<title", _, rfl, rfl, rfl⟩, ⟨"<script", _, rfl, rfl, rfl⟩,
    ⟨"<style", _, rfl, rfl, rfl⟩, ⟨"<body", _, rfl, rfl, rfl⟩, ⟨"<h1", _, rfl, rfl, rfl⟩,
    ⟨"<main", _, rfl, rfl, rfl⟩, ⟨"</head", _, rfl, rfl, rfl⟩, ⟨"</main", _, rfl, rfl, rfl⟩,
    ⟨"</body", _, rfl, rfl, rfl⟩, ⟨"</html", _, rfl, rfl, rfl⟩]

/-- All that is looked for in a page. -/
def pageMarks : List Mark := seenMarks ++ documentMarks

theorem seenMarks_subset : seenMarks ⊆ pageMarks := List.subset_append_left _ _

theorem documentMarks_subset : documentMarks ⊆ pageMarks := List.subset_append_right _ _

theorem plain_headerCellHtml (header : HeaderCell) :
    plainMarkup pageMarks (headerCellHtml header) = true := by
  simp only [headerCellHtml, plainMarkup_markup, plainMarkup_text, plainMarkup_nil]
  repeat rw [String.toList_ofList]
  decide

theorem plain_pageLinkHtml (link : PageLink) :
    plainMarkup pageMarks (pageLinkHtml link) = true := by
  unfold pageLinkHtml
  split
  on_goal 2 => split
  all_goals
    simp only [plainMarkup_markup, plainMarkup_text, plainMarkup_nil]
    repeat rw [String.toList_ofList]
    decide

theorem plain_stepLink {name sign : String}
    (h : missesAll pageMarks
      ("\" aria-label=\"" ++ name ++ "\">" ++ sign ++ "</a>").toList = true)
    (href : Option String) : plainMarkup pageMarks (stepLink name sign href) = true := by
  cases href with
  | none => rfl
  | some href =>
      simp only [stepLink, plainMarkup_markup, plainMarkup_text, plainMarkup_nil, h, Bool.and_true]
      repeat rw [String.toList_ofList]
      decide

/-- Links show nothing, wherever they lead. Behind them stands the place of the page. -/
theorem exists_links (results : ResultsTable) :
    ∃ links, plainMarkup pageMarks links = true ∧
      paginationHtml results = links ++ [.markup "\n  <span class=\"summary\">",
        .text results.summary, .markup "</span>\n</nav>\n"] := by
  have hSteps : ∀ step ∈ [("First page", "&laquo;"), ("Previous page", "&lsaquo;"),
      ("Next page", "&rsaquo;"), ("Last page", "&raquo;")], ∀ href,
      plainMarkup pageMarks (stepLink step.1 step.2 href) = true := by
    refine fun step hMem => plain_stepLink ?_
    revert step
    simp only [List.forall_mem_cons, String.toList_append]
    repeat rw [String.toList_ofList]
    decide
  have hItem (link : PageLink) : plainMarkup pageMarks
      ([.markup "\n    "] ++ pageLinkHtml link ++ [.markup "\n  "]) = true := by
    simp only [plainMarkup_append, plainMarkup_markup, plainMarkup_nil, plain_pageLinkHtml link]
    repeat rw [String.toList_ofList]
    decide
  simp only [List.forall_mem_cons] at hSteps
  refine ⟨_, ?_, rfl⟩
  simp only [plainMarkup_append, plainMarkup_markup, plainMarkup_nil, hSteps,
    plainMarkup_flatMap hItem]
  repeat rw [String.toList_ofList]
  decide

/-! The parts of a page. -/

theorem shows_alertBox (alert : Alert) : Shows (alertBox alert) (.only .alert [alert.kind]) := by
  refine (Shows.text .alert ['\n'] ?frames alert.kind).back ?rest
  case frames =>
    repeat rw [String.toList_ofList]
    decide
  case rest =>
    simp only [plainMarkup_markup, plainMarkup_text, plainMarkup_nil]
    repeat rw [String.toList_ofList]
    decide

theorem fieldOf_escape (name value : String) {c : Char} (hMarkup : isMarkupChar c = true)
    (rest : List Char) :
    fieldOf (escape name.toList ++ ("\" value=\"".toList ++ (escape value.toList ++ c :: rest))) =
      (name, value) := by
  have hBetween : "\" value=\"".toList = '"' :: " value=\"".toList := by
    repeat rw [String.toList_ofList]
  have hName := plainPart_escape name.toList (c := '"') (by decide)
    (" value=\"".toList ++ (escape value.toList ++ c :: rest))
  have hText := textOf_escape name (c := '"') (by decide)
    (" value=\"".toList ++ (escape value.toList ++ c :: rest))
  rw [← List.cons_append, ← hBetween] at hName hText
  rw [fieldOf, hText, hName, List.drop_left, List.drop_left' String.length_toList,
    textOf_escape value hMarkup]

theorem shows_hiddenField (name value : String) :
    Shows [.markup "<input type=\"hidden\" name=\"", .text name, .markup "\" value=\"",
      .text value, .markup "\">"] (.fields [(name, value)]) := by
  have hFront : "<input type=\"hidden\" name=\"".toList = [] ++ hiddenMark.chars := by
    rw [String.toList_ofList]
    rfl
  have hBehind : plainMarkup [hiddenMark] [.text name, .markup "\" value=\"", .text value,
      .markup "\">"] = true := by
    simp only [plainMarkup_markup, plainMarkup_text, plainMarkup_nil]
    repeat rw [String.toList_ofList]
    decide
  have hPlaces : plainMarkup (Place.all.map Place.mark)
      [.markup "<input type=\"hidden\" name=\"", .text name, .markup "\" value=\"",
        .text value, .markup "\">"] = true := by
    simp only [plainMarkup_markup, plainMarkup_text, plainMarkup_nil]
    repeat rw [String.toList_ofList]
    decide
  intro rest
  refine Seen.ext (funext fun place => ?_) ?_
  · exact Mark.readAll_of_plain hPlaces (List.mem_map_of_mem place.mem_all) textOf rest
  · have hClose : "\">".toList = ['"', '>'] := by rw [String.toList_ofList]
    have hField : fieldOf (render [.text name, .markup "\" value=\"", .text value, .markup "\">"] ++
        rest) = (name, value) := by
      rw [← fieldOf_escape name value (c := '"') (by decide) ('>' :: rest)]
      simp [render_markup, render_text, render_nil, hClose]
    change hiddenMark.readAll fieldOf _ = (name, value) :: hiddenMark.readAll fieldOf rest
    rw [render_markup, List.append_assoc, Mark.readAll_front fieldOf hFront rfl, hField,
      Mark.readAll_of_plain hBehind List.mem_cons_self]

theorem shows_hiddenFields (fields : List (String × String)) :
    Shows (hiddenFields fields) (.fields fields) := by
  induction fields with
  | nil => exact .of_plain (by decide)
  | cons field fields ih => exact (shows_hiddenField field.1 field.2).append ih

theorem shows_queryForm (page : ScreenerPage) :
    Shows (queryForm page) (.only .query [page.query] ++ .fields page.sortFields) := by
  have hParts : render [.markup "  <textarea id=\"query\" name=\"query\" ",
      .markup "placeholder=\"Market Capitalization > 10000 AND\nROE > 15\">", .text page.query,
      .markup "</textarea>\n  "] =
    render [.markup ("  " ++ Place.query.mark.text), .text page.query,
      .markup "</textarea>\n  "] := by
    simp only [render_markup, render_text, render_nil, Place.mark, queryMark, String.toList_append]
    repeat rw [String.toList_ofList]
    rfl
  have hText : Shows [.markup "  <textarea id=\"query\" name=\"query\" ",
      .markup "placeholder=\"Market Capitalization > 10000 AND\nROE > 15\">", .text page.query,
      .markup "</textarea>\n  "] (.only .query [page.query]) := by
    refine Shows.of_render (Shows.text .query [' ', ' '] ?_ page.query) hParts
    simp only [Place.mark, queryMark, String.toList_append]
    repeat rw [String.toList_ofList]
    decide
  refine ((Shows.front [_, _] ?front hText).append (shows_hiddenFields page.sortFields)).back ?back
  all_goals
    simp only [plainMarkup_markup, plainMarkup_nil]
    repeat rw [String.toList_ofList]
    decide

theorem shows_searchForm (page : ScreenerPage) :
    Shows (searchForm page) (.fields ((ScreenState.queryParam, page.query) :: page.sortFields) ++
      .only .search [page.search]) := by
  have hParts : render [.markup "  <input type=\"hidden\" name=\"query\" value=\"",
      .text page.query, .markup "\">\n  "] =
    render ([.markup "  "] ++ hiddenFields [(ScreenState.queryParam, page.query)] ++
      [.markup "\n  "]) := by
    simp only [hiddenFields, List.flatMap_cons, List.flatMap_nil, List.append_nil, render_append,
      render_markup, render_text, render_nil, ScreenState.queryParam, List.append_assoc]
    repeat rw [String.toList_ofList]
    rfl
  have hQuery : Shows [.markup "  <input type=\"hidden\" name=\"query\" value=\"",
      .text page.query, .markup "\">\n  "] (.fields [(ScreenState.queryParam, page.query)]) := by
    refine ((Shows.front [_] ?front (shows_hiddenFields _)).back ?back).of_render hParts
    all_goals
      simp only [plainMarkup_markup, plainMarkup_nil]
      repeat rw [String.toList_ofList]
      decide
  have hSearch : Shows [.markup "\n  <input type=\"search\" name=\"search\" value=\"",
      .text page.search,
      .markup "\" placeholder=\"Search ticker\">\n  <button type=\"submit\">Search</button>\n",
      .markup "</form>\n"] (.only .search [page.search]) := by
    refine (Shows.text .search ['\n', ' ', ' '] ?frames page.search).back ?rest
    case rest =>
      simp only [plainMarkup_markup, plainMarkup_nil]
      repeat rw [String.toList_ofList]
      decide
    case frames =>
      repeat rw [String.toList_ofList]
      decide
  refine ((Shows.front [_] ?_ hQuery).append (shows_hiddenFields page.sortFields)).append hSearch
  simp only [plainMarkup_markup, plainMarkup_nil]
  repeat rw [String.toList_ofList]
  decide

theorem shows_rowHtml (row : List String) : Shows (rowHtml row) (.only .cell row) := by
  have hCell (cell : String) :
      Shows [.markup "<td>", .text cell, .markup "</td>"] (.only .cell [cell]) := by
    refine Shows.text .cell [] ?_ cell
    repeat rw [String.toList_ofList]
    decide
  have hCells := Shows.flatMap hCell row
  rw [List.flatMap_singleton' row] at hCells
  refine (Shows.front [_] ?front hCells).back ?back
  all_goals
    simp only [plainMarkup_markup, plainMarkup_nil]
    repeat rw [String.toList_ofList]
    decide

theorem shows_tableHtml (results : ResultsTable) :
    Shows (tableHtml results) (.only .table ["results"] ++ .only .cell results.rows.flatten) := by
  have hParts : render [.markup "\n<table class=\"results\">\n  <thead>\n    <tr>\n      "] =
      render [.markup "\n<table class=\"", .text "results",
        .markup "\">\n  <thead>\n    <tr>\n      "] := by
    simp only [render_markup, render_text, render_nil]
    repeat rw [String.toList_ofList]
    rfl
  have hTable : Shows [.markup "\n<table class=\"results\">\n  <thead>\n    <tr>\n      "]
      (.only .table ["results"]) := by
    refine (Shows.text .table ['\n'] ?_ "results").of_render hParts
    repeat rw [String.toList_ofList]
    decide
  have hRows := Shows.flatMap shows_rowHtml results.rows
  rw [List.flatMap_id'] at hRows
  have hHeaders := plainMarkup_of_subset (plainMarkup_flatMap plain_headerCellHtml results.headers)
    seenMarks_subset
  refine (((hTable.back hHeaders).back ?_).append hRows).back ?_
  all_goals
    simp only [plainMarkup_markup, plainMarkup_nil]
    repeat rw [String.toList_ofList]
    decide

theorem shows_paginationHtml (results : ResultsTable) :
    Shows (paginationHtml results) (.only .summary [results.summary]) := by
  obtain ⟨links, hLinks, hPagination⟩ := exists_links results
  rw [hPagination]
  refine .front _ (plainMarkup_of_subset hLinks seenMarks_subset)
    (.text .summary ['\n', ' ', ' '] ?_ results.summary)
  repeat rw [String.toList_ofList]
  decide

/-! A whole page. -/

/-- What a page is made to show. -/
def ScreenerPage.seen (page : ScreenerPage) : Seen where
  texts
    | .alert => page.alert.toList.map Alert.kind
    | .table => page.results.toList.map fun _ => "results"
    | .cell => page.results.toList.flatMap fun results => results.rows.flatten
    | .summary => page.results.toList.map ResultsTable.summary
    | .query => [page.query]
    | .search => page.results.toList.map fun _ => page.search
  hidden := page.sortFields ++
    page.results.toList.flatMap fun _ => (ScreenState.queryParam, page.query) :: page.sortFields

/-- The part of a page with results. -/
def resultsHtml (page : ScreenerPage) (results : ResultsTable) : Html :=
  searchForm page ++ tableHtml results ++ paginationHtml results

theorem html_eq (page : ScreenerPage) :
    page.html = queryForm page ++ [.markup "\n"] ++ page.alert.elim [] alertBox ++
      [.markup "\n\n"] ++ page.results.elim [] (resultsHtml page) := by
  unfold ScreenerPage.html
  cases page.alert <;> cases page.results <;> rfl

theorem seen_eq (page : ScreenerPage) :
    page.seen = .only .query [page.query] ++ .fields page.sortFields ++
      .only .alert (page.alert.toList.map Alert.kind) ++
      page.results.elim .none fun results =>
        .fields ((ScreenState.queryParam, page.query) :: page.sortFields) ++
          .only .search [page.search] ++
          (.only .table ["results"] ++ .only .cell results.rows.flatten) ++
          .only .summary [results.summary] := by
  refine Seen.ext (funext fun place => ?_) ?_
  · cases place <;> cases hResults : page.results <;>
      simp [ScreenerPage.seen, Seen.none, Seen.only, Seen.fields, hResults]
  · cases hResults : page.results <;>
      simp [ScreenerPage.seen, Seen.none, Seen.only, Seen.fields, hResults]

/-- A page shows what it was made of, and nothing else. -/
theorem shows_html (page : ScreenerPage) : Shows page.html page.seen := by
  have hAlert : Shows (page.alert.elim [] alertBox)
      (.only .alert (page.alert.toList.map Alert.kind)) := by
    cases page.alert with
    | none => exact Seen.only_nil .alert ▸ .of_plain rfl
    | some alert => exact shows_alertBox alert
  have hBreaks : plainMarkup seenMarks [.markup "\n"] = true ∧
      plainMarkup seenMarks [.markup "\n\n"] = true := by
    simp only [plainMarkup_markup, plainMarkup_nil]
    repeat rw [String.toList_ofList]
    decide
  rw [html_eq, seen_eq]
  refine ((((shows_queryForm page).back hBreaks.1).append hAlert).back hBreaks.2).append ?_
  cases page.results with
  | none => exact .of_plain rfl
  | some results =>
      exact ((shows_searchForm page).append (shows_tableHtml results)).append
        (shows_paginationHtml results)

theorem missesAll_styleSheet : missesAll seenMarks styleSheet.toList = true := by
  unfold styleSheet
  repeat rw [String.toList_append]
  repeat rw [String.toList_ofList]
  decide +kernel

theorem shows_document {content : Html} {seen : Seen} (h : Shows content seen) (title : String) :
    Shows (document title content) seen := by
  unfold document
  refine (h.front _ ?front).back ?back
  case front =>
    simp only [plainMarkup_markup, plainMarkup_text, plainMarkup_nil, missesAll_styleSheet]
    repeat rw [String.toList_ofList]
    decide
  case back =>
    simp only [plainMarkup_markup, plainMarkup_nil]
    repeat rw [String.toList_ofList]
    decide

theorem seen_of_shows {content : Html} {seen : Seen} (h : Shows content seen) :
    Seen.ofBody (String.ofList (render content)) = seen := by
  have hEnd := h []
  have hNothing : Seen.ofChars [] = .none := rfl
  rwa [List.append_nil, hNothing, Seen.append_none, ← String.toList_ofList (l := render content)]
    at hEnd

/-- The response with a page shows what the page was made of, as a document and alone. -/
theorem seen_pageResponse (request : Web.Request) (page : ScreenerPage) :
    Seen.ofBody (Web.pageResponse request (.ok page)).body = page.seen := by
  unfold Web.pageResponse Web.Request.framed
  split_ifs
  · exact seen_of_shows (shows_html page)
  · exact seen_of_shows (shows_document (shows_html page) Web.screenerTitle)

end EquityScreen.Page
