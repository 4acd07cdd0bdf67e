import EquityScreen.CommandLine.TextTable

/-! Text tables whose widths are found while they are written. Padding takes widths of 16 bits; a
greater one stops the writing, and there is no table then. -/
namespace EquityScreen.CommandLine

/-- The least number that is too great for a width. -/
def widthLimit : Nat := 2 ^ 16

/-- What is reported where a width is too great. -/
def widthFault : String := "Formatting argument out of range"

/-- Pad a cell in some way to a width that padding takes. -/
def padTo? (pad : Nat → List Char → List Char) (width : Nat) (cell : List Char) :
    Option (List Char) :=
  if width < widthLimit then some (pad width cell) else none

def alignedCells? : List Nat → List (List Char) → Option (List (List Char))
  | width :: widths, cell :: cells => do
    let first ← padTo? padRight width cell
    let others ← (widths.zip cells).mapM fun (width, cell) => padTo? padLeft width cell
    return first :: others
  | _, _ => some []

def tableLine? (widths : List Nat) (cells : List (List Char)) : Option (List Char) := do
  return Text.trimEnd ([' ', ' '].intercalate (← alignedCells? widths cells)) ++ ['\n']

/-- The table of some stocks, if it is not too wide to be written. -/
def renderTable? (rows : List Stock) : Option (List Char) := do
  let widths := columnWidths rows
  let header ← tableLine? widths headerCells
  let rule ← tableLine? widths (widths.map fun w => List.replicate w '-')
  let lines ← rows.mapM fun s => tableLine? widths s.cells
  return header ++ rule ++ lines.flatten

end EquityScreen.CommandLine
