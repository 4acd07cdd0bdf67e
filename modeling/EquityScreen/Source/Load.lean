import EquityScreen.Failure
import EquityScreen.Source.Bundled
import EquityScreen.Source.File
import EquityScreen.Stock.Csv
import EquityScreen.Stock.Json

/-! Where stocks come from: the bundled data, or a file, which is read as comma-separated values if
its name says so and as JSON otherwise. -/
namespace EquityScreen

/-- The failure of data that is no sound JSON, described by a message. -/
def jsonFailure (description : String) : Failure := .dataFormat ("invalid JSON: " ++ description)

/-- The stocks that a JSON text lists. -/
def stocksOfJson (text : List Char) : Except Failure (List Stock) :=
  match Stock.listOfJson text with
  | .ok stocks => .ok stocks
  | .error e => .error (jsonFailure (e.located text))

/-- The stocks that a text of comma-separated values lists. -/
def stocksOfCsv (text : List Char) : Except Failure (List Stock) :=
  match Stock.listOfCsv text with
  | .ok stocks => .ok stocks
  | .error fault => .error (.dataFormat fault.message)

inductive StockSource where
  | bundled
  | csvFile (path : String)
  | jsonFile (path : String)
deriving DecidableEq, Repr

namespace StockSource

/-- The source that a data path selects: none selects the bundled data. -/
def ofPath? : Option String → StockSource
  | none => bundled
  | some path =>
    if (extension? path.toList).any (Text.sameIgnoringAsciiCase · "csv".toList) then csvFile path
    else jsonFile path

/-- Where the stocks come from, in words. -/
def describe : StockSource → String
  | bundled => "bundled data set"
  | csvFile path => path
  | jsonFile path => path

/-- The stocks in a text file, or the failure to read it. -/
def stocksOfFile (path : String) (parse : List Char → Except Failure (List Stock)) :
    Except FileError (List Char) → Except Failure (List Stock)
  | .ok text => parse text
  | .error e => .error (.dataSource path e.message)

/-- Load all stocks of a source. -/
def load [Monad m] (read : FileReader m) : StockSource → m (Except Failure (List Stock))
  | bundled => pure (.ok bundledStocks)
  | csvFile path => do return stocksOfFile path stocksOfCsv (← read.text path)
  | jsonFile path => do return stocksOfFile path stocksOfJson (← read.text path)

end StockSource

end EquityScreen
