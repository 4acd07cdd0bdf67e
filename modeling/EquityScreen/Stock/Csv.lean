import EquityScreen.Csv
import EquityScreen.Decimal.Numeral
import EquityScreen.Stock

/-! Stock records from comma-separated values. The first record names the columns: one is the
ticker, others are metrics in any order, and columns with other names are passed over. Rows without
a ticker are left out, and a cell that is no number makes its metric absent. -/
namespace EquityScreen

/-- Why comma-separated values give no stocks. -/
inductive CsvFault where
  | missingTickerColumn
  | unequalWidths (record line byte width expected : Nat)
deriving DecidableEq, Repr

def CsvFault.message : CsvFault → String
  | missingTickerColumn => "missing ticker column"
  | unequalWidths record line byte width expected =>
    "CSV parse error: CSV error: record " ++ toString record ++ " (line: " ++ toString line
      ++ ", byte: " ++ toString byte ++ "): found record with " ++ toString width
      ++ " fields, but the previous record has " ++ toString expected ++ " fields"

namespace Stock

/-- Which column holds what. -/
structure CsvColumns where
  ticker : Nat
  metrics : List (Nat × Metric)
deriving DecidableEq, Repr

/-- The columns that a header names. The first column called ticker, in any case, is the ticker. -/
def csvColumns? (header : List (List Char)) : Option CsvColumns :=
  (header.findIdx? fun name => Text.sameIgnoringAsciiCase name "ticker".toList).map fun ticker =>
    { ticker
      metrics := header.zipIdx.filterMap fun (name, index) =>
        (Metric.ofIdentifier? (String.ofList name)).map fun m => (index, m) }

/-- The number in a cell of a row. -/
def csvCell (fields : List (List Char)) (index : Nat) : Option Binary64 :=
  (fields[index]?).bind Binary64.ofNumeral?

/-- The stock in a row, if the row has a ticker. -/
def ofCsvRow? (columns : CsvColumns) (fields : List (List Char)) : Option Stock :=
  match (fields[columns.ticker]?).getD [] with
  | [] => none
  | ticker =>
    some (columns.metrics.foldl (fun s (index, m) => s.setMetric m (csvCell fields index))
      (ofTicker (String.ofList ticker)))

/-- The stocks in the rows after a header, the rows being numbered from `row`. Every row must be
as wide as the header. -/
def ofCsvRows (columns : CsvColumns) (width : Nat) :
    Nat → List Csv.Record → Except CsvFault (List Stock)
  | _, [] => .ok []
  | row, record :: rest =>
    if record.fields.length = width then do
      let stocks ← ofCsvRows columns width (row + 1) rest
      .ok ((ofCsvRow? columns record.fields).toList ++ stocks)
    else .error (.unequalWidths row record.line record.byte record.fields.length width)

/-- The stocks in a table of records, the first of which is the header. -/
def listOfRecords (records : List Csv.Record) : Except CsvFault (List Stock) :=
  match records with
  | [] => .error .missingTickerColumn
  | header :: rows =>
    match csvColumns? header.fields with
    | none => .error .missingTickerColumn
    | some columns => ofCsvRows columns header.fields.length 1 rows

/-- The stocks that a text of comma-separated values lists. -/
def listOfCsv (text : List Char) : Except CsvFault (List Stock) := listOfRecords (Csv.records text)

end Stock

end EquityScreen
