import EquityScreen.ScreenState
import EquityScreen.Table.View

/-! The results table as people see it: headers that sort, the rows of one page, and links to other
pages. Every link is the address of the state that it leads to. -/
namespace EquityScreen.Page

structure HeaderCell where
  label : String
  href : String
  indicator : String
  ariaSort : String
deriving DecidableEq, Repr

/-- A place in the list of pages. The current page and gaps lead nowhere. -/
structure PageLink where
  label : String
  href : Option String
  current : Bool
deriving DecidableEq, Repr

structure ResultsTable where
  headers : List HeaderCell
  rows : List (List String)
  pages : List PageLink
  firstHref : Option String
  prevHref : Option String
  nextHref : Option String
  lastHref : Option String
  summary : String
deriving DecidableEq, Repr

/-- The mark of a sorted column. -/
def indicator : Option SortDirection → String
  | some .ascending => "▲"
  | some .descending => "▼"
  | none => ""

/-- What a header tells about the sort of its column. -/
def ariaSort : Option SortDirection → String
  | some direction => direction.identifier
  | none => "none"

/-- The address of a state with its table changed. -/
def tableHref (state : ScreenState) (table : TableState) : String := (state.withTable table).href

/-- The address of another page of the same table. -/
def pageHref (state : ScreenState) (page : Nat) : String :=
  tableHref state (state.table.withPage page)

/-- The header of a column, which leads to the table sorted by it. -/
def headerCell (state : ScreenState) (column : Column) : HeaderCell :=
  let direction := state.table.sortDirection? column
  { label := column.header
    href := tableHref state (state.table.toggleSort column)
    indicator := indicator direction
    ariaSort := ariaSort direction }

/-- One place in the list of pages beside a current page. -/
def pageLink (state : ScreenState) (current : Nat) : PageItem → PageLink
  | .page n =>
    { label := toString n
      href := if n = current then none else some (pageHref state n)
      current := n == current }
  | .ellipsis => { label := "…", href := none, current := false }

namespace ResultsTable

/-- Lay out a view of the table of a state. Before the first page there is nothing to go back to,
and a page past the last one leads back to the last one. -/
def ofView (state : ScreenState) (view : TableView) : ResultsTable :=
  let back (page : Nat) : Option String :=
    if 1 < view.page ∧ 0 < view.totalPages then some (pageHref state page) else none
  let forward (page : Nat) : Option String :=
    if view.page < view.totalPages then some (pageHref state page) else none
  { headers := Column.all.map (headerCell state)
    rows := view.rows.map fun s => s.cells.map String.ofList
    pages := (pageNumbers view.page view.totalPages).map (pageLink state view.page)
    firstHref := back 1
    prevHref := back (min (view.page - 1) view.totalPages)
    nextHref := forward (view.page + 1)
    lastHref := forward view.totalPages
    summary := "Page " ++ toString view.page ++ " of " ++ toString view.totalPages ++ " ("
      ++ toString view.totalRows ++ " rows)" }

end ResultsTable

end EquityScreen.Page
