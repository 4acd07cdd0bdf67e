import EquityScreen.Stock
import EquityScreen.Text.Utf8

/-! The order of the rows of a table. Rows are ordered by one column in either direction; rows
without a value in that column come last both ways, and rows that compare equal stay as they are. -/
namespace EquityScreen

inductive SortDirection where
  | ascending
  | descending
deriving DecidableEq, Repr

namespace SortDirection

def identifier : SortDirection → String
  | ascending => "ascending"
  | descending => "descending"

def ofIdentifier? (name : String) : Option SortDirection :=
  [ascending, descending].find? fun d => d.identifier == name

def ofName (name : String) : Except UnknownName SortDirection :=
  match ofIdentifier? name with
  | some d => .ok d
  | none => .error (.sortDirection name)

/-- Turn a comparison round for descending order. -/
def apply : SortDirection → Ordering → Ordering
  | ascending, o => o
  | descending, o => o.swap

end SortDirection

/-- The column that a table is sorted by, and the direction. -/
structure SortConfig where
  column : Column
  direction : SortDirection
deriving DecidableEq, Repr

/-- Tickers are ordered by the UTF-8 bytes of their small letters. -/
def Stock.tickerKey (s : Stock) : List UInt8 := Text.utf8Bytes (Text.lowercase s.ticker.toList)

/-- The value of a metric that counts for sorting: a NaN counts as absent. -/
def Stock.sortValue? (s : Stock) (m : Metric) : Option Binary64 :=
  (s.metric m).filter fun x => !x.isNaN

namespace SortConfig

/-- Compare two rows. Only present values are turned round by the direction. -/
def compareRows (sort : SortConfig) (a b : Stock) : Ordering :=
  match sort.column with
  | .ticker => sort.direction.apply (compare a.tickerKey b.tickerKey)
  | .metric m =>
    match a.sortValue? m, b.sortValue? m with
    | some x, some y => sort.direction.apply (x.compareTotal y)
    | some _, none => .lt
    | none, some _ => .gt
    | none, none => .eq

end SortConfig

/-- Sort rows, keeping the order of rows that compare equal. Without a column nothing moves. -/
def sortRows (rows : List Stock) : Option SortConfig → List Stock
  | none => rows
  | some sort => rows.mergeSort fun a b => (sort.compareRows a b).isLE

end EquityScreen
