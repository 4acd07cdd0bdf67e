import EquityScreen.Stock
import EquityScreen.Text.Blank

/-! Stocks as an aligned text table: the ticker at the left of its column, metrics at the right of
theirs, every column as wide as its widest cell or header. -/
namespace EquityScreen.CommandLine

def padRight (width : Nat) (cell : List Char) : List Char :=
  cell ++ List.replicate (width - cell.length) ' '

def padLeft (width : Nat) (cell : List Char) : List Char :=
  List.replicate (width - cell.length) ' ' ++ cell

/-- The greatest of some lengths. -/
def maxLength (cells : List (List Char)) : Nat := (cells.map List.length).foldl max 0

/-- The cells of a row side by side, the first padded at the right and the others at the left. -/
def alignedCells : List Nat → List (List Char) → List (List Char)
  | width :: widths, cell :: cells =>
    padRight width cell :: List.zipWith padLeft widths cells
  | _, _ => []

/-- A line of the table. White space at its end is left out. -/
def tableLine (widths : List Nat) (cells : List (List Char)) : List Char :=
  Text.trimEnd ([' ', ' '].intercalate (alignedCells widths cells)) ++ ['\n']

def headerCells : List (List Char) := Column.all.map fun c => c.header.toList

/-- The width of every column over some rows and the headers. -/
def columnWidths (rows : List Stock) : List Nat :=
  Column.all.map fun c => maxLength (c.header.toList :: rows.map fun s => s.cell c)

/-- The table of some stocks: headers, a rule, and a line for each stock. -/
def renderTable (rows : List Stock) : List Char :=
  let widths := columnWidths rows
  tableLine widths headerCells
    ++ tableLine widths (widths.map fun w => List.replicate w '-')
    ++ rows.flatMap fun s => tableLine widths s.cells

/-- The metrics that queries may name: label, identifier and header of each. -/
def renderFields : List Char :=
  let labelWidth := maxLength (Metric.all.map fun m => m.label.toList)
  let identifierWidth := maxLength (Metric.all.map fun m => m.identifier.toList)
  Metric.all.flatMap fun m =>
    padRight labelWidth m.label.toList ++ [' ', ' ']
      ++ padRight identifierWidth m.identifier.toList ++ [' ', ' '] ++ m.header.toList ++ ['\n']

end EquityScreen.CommandLine
