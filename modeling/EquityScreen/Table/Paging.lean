/-! Pages of a table. Pages are counted from one. Page numbers and page sizes are 64-bit numbers,
and products and sums of them stay at the greatest one where they would pass it. -/
namespace EquityScreen

/-- The greatest page number, page size and row position. -/
def maxWord : Nat := 2 ^ 64 - 1

/-- How many pages hold that many rows: none if pages are empty. -/
def totalPages (rowCount pageSize : Nat) : Nat :=
  if pageSize = 0 then 0 else (rowCount + pageSize - 1) / pageSize

/-- The rows on a page. A page that does not exist is empty. -/
def paginate (rows : List α) (page pageSize : Nat) : List α :=
  if page = 0 ∨ pageSize = 0 then []
  else
    let start := min maxWord ((page - 1) * pageSize)
    if rows.length ≤ start then []
    else
      let stop := min (min maxWord (start + pageSize)) rows.length
      (rows.drop start).take (stop - start)

/-- One place in the list of page links. -/
inductive PageItem where
  | page (number : Nat)
  | ellipsis
deriving DecidableEq, Repr

/-- Up to this many pages are listed in full. -/
def maxFullPageList : Nat := 7

/-- The pages offered beside page `current` of `total`: all of a few, otherwise the first two, the
current page with its neighbours and the last two, gaps being shown as ellipses. -/
def pageNumbers (current total : Nat) : List PageItem :=
  if total ≤ maxFullPageList then (List.range' 1 total).map .page
  else
    let first := max (current - 1) 3
    let last := min (min maxWord (current + 1)) (total - 2)
    [.page 1, .page 2]
      ++ (if 3 < first then [.ellipsis] else [])
      ++ (List.range' first (last + 1 - first)).map .page
      ++ (if last < total - 2 then [.ellipsis] else [])
      ++ [.page (total - 1), .page total]

end EquityScreen
