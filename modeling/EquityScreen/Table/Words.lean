import EquityScreen.Table.Paging

/-! Paging by 64-bit words. A computation stops at once where a sum or a difference is not a word,
where it divides by zero and where it would take rows from outside a table. Saturating operations go
to the greatest or the least word instead. -/
namespace EquityScreen.Words

/-- What stops a computation. None of this must ever happen. -/
inductive Stop where
  | overflow
  | underflow
  | noDivisor
  | outside (start stop : UInt64)
deriving DecidableEq, Repr

def greatest : UInt64 := .ofNat maxWord

def add (a b : UInt64) : Except Stop UInt64 :=
  if a.toNat + b.toNat ≤ maxWord then .ok (a + b) else .error .overflow

def sub (a b : UInt64) : Except Stop UInt64 := if b ≤ a then .ok (a - b) else .error .underflow

def saturatingAdd (a b : UInt64) : UInt64 :=
  if a.toNat + b.toNat ≤ maxWord then a + b else greatest

def saturatingSub (a b : UInt64) : UInt64 := if b ≤ a then a - b else 0

def saturatingMul (a b : UInt64) : UInt64 :=
  if a.toNat * b.toNat ≤ maxWord then a * b else greatest

/-- A quotient, rounded up. -/
def divCeil (a b : UInt64) : Except Stop UInt64 :=
  if b = 0 then .error .noDivisor
  else if a % b = 0 then .ok (a / b)
  else add (a / b) 1

/-- The rows from one position up to another. -/
def slice (rows : List α) (start stop : UInt64) : Except Stop (List α) :=
  if start ≤ stop ∧ stop.toNat ≤ rows.length then
    .ok ((rows.drop start.toNat).take (stop.toNat - start.toNat))
  else .error (.outside start stop)

/-- The pages from one to another, both included. -/
def pagesBetween (first last : UInt64) : List PageItem :=
  (List.range' first.toNat (last.toNat + 1 - first.toNat)).map .page

def totalPages (rowCount pageSize : UInt64) : Except Stop UInt64 :=
  if pageSize = 0 then return 0 else divCeil rowCount pageSize

def paginate (rows : List α) (page pageSize : UInt64) : Except Stop (List α) := do
  if page = 0 ∨ pageSize = 0 then return []
  else
    let start := saturatingMul (← sub page 1) pageSize
    let count := UInt64.ofNat rows.length
    if count ≤ start then return [] else slice rows start (min (saturatingAdd start pageSize) count)

def pageNumbers (current total : UInt64) : Except Stop (List PageItem) := do
  if total ≤ .ofNat maxFullPageList then return pagesBetween 1 total
  else
    let first := max (saturatingSub current 1) 3
    let stop ← sub total 2
    let last := min (saturatingAdd current 1) stop
    let lastButOne ← sub total 1
    return [.page 1, .page 2]
      ++ (if 3 < first then [.ellipsis] else [])
      ++ pagesBetween first last
      ++ (if last < stop then [.ellipsis] else [])
      ++ [.page lastButOne.toNat, .page total.toNat]

end EquityScreen.Words
