import EquityScreen.Table.Paging
import EquityScreen.Table.Search
import EquityScreen.Table.State

/-! The part of a table that is shown: the rows found by the search, sorted, one page of them. -/
namespace EquityScreen

structure TableView where
  rows : List Stock
  page : Nat
  pageSize : Nat
  /-- Rows found by the search, on all pages together. -/
  totalRows : Nat
  totalPages : Nat

/-- The rows that are paged over: those found by the search, in the chosen order. -/
def TableState.visibleRows (t : TableState) (rows : List Stock) : List Stock :=
  sortRows (searchByTicker rows t.search.toList) t.sort

def TableView.ofRows (rows : List Stock) (state : TableState) (pageSize : Nat) : TableView :=
  let visible := state.visibleRows rows
  { rows := paginate visible state.page pageSize
    page := state.page
    pageSize
    totalRows := visible.length
    totalPages := EquityScreen.totalPages visible.length pageSize }

end EquityScreen
