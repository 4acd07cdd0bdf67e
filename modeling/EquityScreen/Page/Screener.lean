import EquityScreen.Page.Markup
import EquityScreen.Page.Results
import EquityScreen.Screen

/-! The screener page: a form for the query, a message if there is nothing to show, and otherwise
the results with a form for the ticker search. Both forms carry the sort in hidden fields. -/
namespace EquityScreen.Page

/-- A message above the results. The kind chooses its look. -/
structure Alert where
  kind : String
  title : String
  message : String
deriving DecidableEq, Repr

/-- The message for an outcome that shows no results. -/
def Alert.ofOutcome? : ScreenOutcome → Option Alert
  | .noValidConditions => some ⟨"error", "Error", ScreenOutcome.noValidConditionsMessage⟩
  | .noMatches _ => some ⟨"info", "Sorry!", ScreenOutcome.noMatchesMessage⟩
  | .selected _ _ => none

structure ScreenerPage where
  query : String
  search : String
  sortFields : List (String × String)
  alert : Option Alert
  results : Option ResultsTable
deriving DecidableEq, Repr

/-- The page of a state before anything has been screened. -/
def ScreenerPage.ofState (state : ScreenState) : ScreenerPage where
  query := state.query
  search := state.table.search
  sortFields := state.sortFields
  alert := none
  results := none

/-- Hidden fields of a form. -/
def hiddenFields (fields : List (String × String)) : Html :=
  fields.flatMap fun (name, value) =>
    [.markup "<input type=\"hidden\" name=\"", .text name, .markup "\" value=\"", .text value,
      .markup "\">"]

def queryForm (page : ScreenerPage) : Html :=
  [.markup "<form method=\"get\" action=\"/\" class=\"query-form\">\n",
    .markup "  <label for=\"query\">Query</label>\n",
    .markup "  <textarea id=\"query\" name=\"query\" ",
    .markup "placeholder=\"Market Capitalization > 10000 AND\nROE > 15\">", .text page.query,
    .markup "</textarea>\n  "]
    ++ hiddenFields page.sortFields
    ++ [.markup "\n  <button type=\"submit\">Run</button>\n</form>\n"]

def alertBox (alert : Alert) : Html :=
  [.markup "\n<div class=\"alert alert-", .text alert.kind,
    .markup "\" role=\"alert\">\n  <strong>", .text alert.title, .markup "</strong>\n  <p>",
    .text alert.message, .markup "</p>\n</div>\n"]

def searchForm (page : ScreenerPage) : Html :=
  [.markup "\n<form method=\"get\" action=\"/\" class=\"search-form\">\n",
    .markup "  <input type=\"hidden\" name=\"query\" value=\"", .text page.query,
    .markup "\">\n  "]
    ++ hiddenFields page.sortFields
    ++ [.markup "\n  <input type=\"search\" name=\"search\" value=\"", .text page.search,
      .markup "\" placeholder=\"Search ticker\">\n  <button type=\"submit\">Search</button>\n",
      .markup "</form>\n"]

def headerCellHtml (header : HeaderCell) : Html :=
  [.markup "\n      <th aria-sort=\"", .text header.ariaSort, .markup "\"><a href=\"",
    .text header.href, .markup "\">", .text header.label, .markup " ", .text header.indicator,
    .markup "</a></th>\n      "]

def rowHtml (row : List String) : Html :=
  [.markup "\n    <tr>"]
    ++ row.flatMap (fun cell => [.markup "<td>", .text cell, .markup "</td>"])
    ++ [.markup "</tr>\n    "]

def tableHtml (results : ResultsTable) : Html :=
  [.markup "\n<table class=\"results\">\n  <thead>\n    <tr>\n      "]
    ++ results.headers.flatMap headerCellHtml
    ++ [.markup "\n    </tr>\n  </thead>\n  <tbody>\n    "]
    ++ results.rows.flatMap rowHtml
    ++ [.markup "\n  </tbody>\n</table>\n"]

/-- A link with a name and a mark of its own, where there is somewhere to go. -/
def stepLink (name mark : String) : Option String → Html
  | some href =>
    [.markup "<a href=\"", .text href,
      .markup ("\" aria-label=\"" ++ name ++ "\">" ++ mark ++ "</a>")]
  | none => []

def pageLinkHtml (link : PageLink) : Html :=
  match link.href with
  | some href => [.markup "<a href=\"", .text href, .markup "\">", .text link.label, .markup "</a>"]
  | none =>
    if link.current then
      [.markup "<span class=\"current\" aria-current=\"page\">", .text link.label,
        .markup "</span>"]
    else [.markup "<span>", .text link.label, .markup "</span>"]

def paginationHtml (results : ResultsTable) : Html :=
  [.markup "\n<nav class=\"pagination\">\n  "]
    ++ stepLink "First page" "&laquo;" results.firstHref
    ++ [.markup "\n  "]
    ++ stepLink "Previous page" "&lsaquo;" results.prevHref
    ++ [.markup "\n  "]
    ++ results.pages.flatMap (fun link =>
      [.markup "\n    "] ++ pageLinkHtml link ++ [.markup "\n  "])
    ++ [.markup "\n  "]
    ++ stepLink "Next page" "&rsaquo;" results.nextHref
    ++ [.markup "\n  "]
    ++ stepLink "Last page" "&raquo;" results.lastHref
    ++ [.markup "\n  <span class=\"summary\">", .text results.summary,
      .markup "</span>\n</nav>\n"]

/-- The whole screener page, without the document around it. -/
def ScreenerPage.html (page : ScreenerPage) : Html :=
  queryForm page
    ++ [.markup "\n"]
    ++ (match page.alert with
      | some alert => alertBox alert
      | none => [])
    ++ [.markup "\n\n"]
    ++ (match page.results with
      | some results => searchForm page ++ tableHtml results ++ paginationHtml results
      | none => [])

end EquityScreen.Page
