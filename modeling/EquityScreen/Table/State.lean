import EquityScreen.Table.Order

/-! What a person has chosen about a table: the column to sort by, the page and the ticker search,
and how the controls of the table change these. -/
namespace EquityScreen

structure TableState where
  sort : Option SortConfig
  page : Nat
  search : String
deriving DecidableEq, Repr

namespace TableState

/-- A table as it is first shown. -/
def initial : TableState := ⟨none, 1, ""⟩

/-- The direction in which a column is sorted now. -/
def sortDirection? (t : TableState) (column : Column) : Option SortDirection :=
  (t.sort.filter fun s => s.column == column).map SortConfig.direction

/-- A click on a column header: ascending, then descending, then unsorted, from the first page. -/
def toggleSort (t : TableState) (column : Column) : TableState where
  sort :=
    match t.sortDirection? column with
    | none => some ⟨column, .ascending⟩
    | some .ascending => some ⟨column, .descending⟩
    | some .descending => none
  page := 1
  search := t.search

def withPage (t : TableState) (page : Nat) : TableState := { t with page }

/-- Search for tickers, starting from the first page. -/
def applySearch (t : TableState) (term : String) : TableState :=
  { t with search := Text.trimString term, page := 1 }

/-- The table of a newly submitted query: the first page, no search, sorted as before. -/
def reset (t : TableState) : TableState := { t with page := 1, search := "" }

end TableState

end EquityScreen
