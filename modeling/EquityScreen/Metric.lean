import EquityScreen.Text.Blank
import EquityScreen.Text.Lowercase

/-! The nine metrics of a stock and the columns of the screening table. A metric has an identifier,
used in data and in addresses, a label, which people write in queries, and a column header. -/
namespace EquityScreen

inductive Metric where
  | marketCapitalization
  | peRatio
  | roe
  | debtToEquity
  | dividendYield
  | revenueGrowth
  | epsGrowth
  | currentRatio
  | grossMargin
deriving DecidableEq, Repr

namespace Metric

/-- The metrics in the order of the table. -/
def all : List Metric :=
  [.marketCapitalization, .peRatio, .roe, .debtToEquity, .dividendYield, .revenueGrowth,
    .epsGrowth, .currentRatio, .grossMargin]

def identifier : Metric → String
  | marketCapitalization => "marketCapitalization"
  | peRatio => "peRatio"
  | roe => "roe"
  | debtToEquity => "debtToEquity"
  | dividendYield => "dividendYield"
  | revenueGrowth => "revenueGrowth"
  | epsGrowth => "epsGrowth"
  | currentRatio => "currentRatio"
  | grossMargin => "grossMargin"

/-- The name used in queries, in small letters. -/
def label : Metric → String
  | marketCapitalization => "market capitalization"
  | peRatio => "p/e ratio"
  | roe => "roe"
  | debtToEquity => "debt-to-equity ratio"
  | dividendYield => "dividend yield"
  | revenueGrowth => "revenue growth"
  | epsGrowth => "eps growth"
  | currentRatio => "current ratio"
  | grossMargin => "gross margin"

def header : Metric → String
  | marketCapitalization => "Market Capitalization (B)"
  | peRatio => "P/E Ratio"
  | roe => "ROE (%)"
  | debtToEquity => "Debt-to-Equity"
  | dividendYield => "Dividend Yield (%)"
  | revenueGrowth => "Revenue Growth (%)"
  | epsGrowth => "EPS Growth (%)"
  | currentRatio => "Current Ratio"
  | grossMargin => "Gross Margin (%)"

def ofIdentifier? (name : String) : Option Metric := all.find? fun m => m.identifier == name

/-- The metric that a query names: its label in any case, with white space around it. -/
def ofLabel? (name : List Char) : Option Metric :=
  let name := Text.lowercase (Text.trim name)
  all.find? fun m => m.label.toList == name

theorem mem_all (m : Metric) : m ∈ all := by cases m <;> decide

end Metric

/-- A column of the table: the ticker, or a metric. -/
inductive Column where
  | ticker
  | metric (m : Metric)
deriving DecidableEq, Repr

namespace Column

/-- The columns from left to right. -/
def all : List Column := ticker :: Metric.all.map metric

def identifier : Column → String
  | ticker => "ticker"
  | metric m => m.identifier

def header : Column → String
  | ticker => "Ticker"
  | metric m => m.header

def ofIdentifier? (name : String) : Option Column :=
  if name == "ticker" then some ticker else (Metric.ofIdentifier? name).map metric

theorem mem_all (c : Column) : c ∈ all := by
  cases c with
  | ticker => decide
  | metric m => exact List.mem_cons_of_mem _ (List.mem_map_of_mem m.mem_all)

end Column

/-- A name that stands for nothing: which kind of name was expected, and what was given. -/
inductive UnknownName where
  | metric (name : String)
  | column (name : String)
  | sortDirection (name : String)
deriving DecidableEq, Repr

def UnknownName.message : UnknownName → String
  | metric name => "unknown metric '" ++ name ++ "'"
  | column name => "unknown column '" ++ name ++ "'"
  | sortDirection name =>
    "invalid sort direction '" ++ name ++ "' (expected ascending or descending)"

def Metric.ofName (name : String) : Except UnknownName Metric :=
  match Metric.ofIdentifier? name with
  | some m => .ok m
  | none => .error (.metric name)

def Column.ofName (name : String) : Except UnknownName Column :=
  match Column.ofIdentifier? name with
  | some c => .ok c
  | none => .error (.column name)

end EquityScreen
