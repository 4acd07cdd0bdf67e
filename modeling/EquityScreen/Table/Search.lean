import EquityScreen.Stock

/-! Search by ticker: a row is kept if the search term occurs in its ticker, both in small
letters. -/
namespace EquityScreen

namespace Text

/-- The first text occurs somewhere in the second. -/
def occursIn (needle : List Char) : List Char → Bool
  | [] => needle.isEmpty
  | c :: rest => needle.isPrefixOf (c :: rest) || occursIn needle rest

end Text

/-- The rows whose ticker contains the term. A blank term keeps every row. -/
def searchByTicker (rows : List Stock) (term : List Char) : List Stock :=
  let needle := Text.lowercase (Text.trim term)
  if needle.isEmpty then rows
  else rows.filter fun s => Text.occursIn needle (Text.lowercase s.ticker.toList)

end EquityScreen
