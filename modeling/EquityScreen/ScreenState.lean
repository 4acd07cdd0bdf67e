import EquityScreen.Decimal.Numeral
import EquityScreen.Form
import EquityScreen.Table.State

/-! The state of a screening session, and its address. The address holds the whole state, so
following a link or reloading a page restores it; an address that was typed by hand always restores
some state, since values that make no sense fall back to defaults. -/
namespace EquityScreen

structure ScreenState where
  query : String
  table : TableState
deriving DecidableEq, Repr

namespace ScreenState

/-- A session before any query. -/
def initial : ScreenState := ⟨"", .initial⟩

/-- Submit a query: its results are shown from the first page with no ticker search. -/
def submitQuery (s : ScreenState) (query : String) : ScreenState := ⟨query, s.table.reset⟩

def withTable (s : ScreenState) (table : TableState) : ScreenState := { s with table }

/-- The names of the address parameters. -/
def queryParam : String := "query"
def sortKeyParam : String := "sortKey"
def sortDirectionParam : String := "sortDirection"
def pageParam : String := "page"
def searchParam : String := "search"

/-- The parameters that carry the sort. -/
def sortFields (s : ScreenState) : List (String × String) :=
  match s.table.sort with
  | some sort =>
    [(sortKeyParam, sort.column.identifier), (sortDirectionParam, sort.direction.identifier)]
  | none => []

/-- The parameters of the address of a state. Empty texts and a missing sort are left out. -/
def params (s : ScreenState) : List (String × String) :=
  (if s.query.isEmpty then [] else [(queryParam, s.query)])
    ++ [(pageParam, toString s.table.page)]
    ++ (if s.table.search.isEmpty then [] else [(searchParam, s.table.search)])
    ++ s.sortFields

def queryString (s : ScreenState) : String := String.ofList (Form.serialize s.params)

/-- The relative address of a state. -/
def href (s : ScreenState) : String := "?" ++ s.queryString

/-- The page that a parameter asks for: a positive 64-bit number, otherwise the first. -/
def pageOfParam (value : Option String) : Nat :=
  match value.bind fun v => word64? (Text.trim v.toList) with
  | some page => max page 1
  | none => 1

/-- The sort that two parameters ask for, if both make sense. -/
def sortOfParams (key direction : Option String) : Option SortConfig :=
  match key.bind Column.ofIdentifier?, direction.bind SortDirection.ofIdentifier? with
  | some column, some direction => some ⟨column, direction⟩
  | _, _ => none

/-- The state that parameters stand for. The first of several parameters of one name counts. -/
def ofParams (params : List (String × String)) : ScreenState where
  query := (params.lookup queryParam).getD ""
  table :=
    { sort := sortOfParams (params.lookup sortKeyParam) (params.lookup sortDirectionParam)
      page := pageOfParam (params.lookup pageParam)
      search := Text.trimString ((params.lookup searchParam).getD "") }

/-- The state that an address restores. One leading question mark is passed over. -/
def ofQueryString (text : String) : ScreenState :=
  match text.toList with
  | '?' :: rest => ofParams (Form.parse rest)
  | rest => ofParams (Form.parse rest)

end ScreenState

end EquityScreen
