import EquityScreen.Decimal.Shortest

/-! The written forms of doubles. Plain text is always positional: no exponent is ever written and
whole numbers carry no point. The form used inside JSON keeps a point in whole numbers and turns to
an exponent for very large and very small values. -/
namespace EquityScreen

namespace Decimal

/-- The decimal digits of a natural number. -/
def digitText (n : Nat) : List Char := Nat.toDigits 10 n

/-- Positional form: the digits with zeros and a point where the exponent puts it. `whole` is
written after a number that has no fraction. -/
def positional (whole : List Char) (d : Decimal) : List Char :=
  let ds := digitText d.digits
  let position := ds.length + d.exponent
  if position ≤ 0 then '0' :: '.' :: (List.replicate (-position).toNat '0' ++ ds)
  else if 0 ≤ d.exponent then ds ++ List.replicate d.exponent.toNat '0' ++ whole
  else ds.take position.toNat ++ '.' :: ds.drop position.toNat

/-- Exponent form: one digit before the point, and an exponent that always has a sign. -/
def scientific (d : Decimal) : List Char :=
  let ds := digitText d.digits
  let e := ds.length + d.exponent - 1
  let fraction := if ds.length ≤ 1 then [] else '.' :: ds.drop 1
  ds.take 1 ++ fraction ++ 'e' :: (if e < 0 then '-' else '+') :: digitText e.natAbs

/-- JSON form: positional for decimal exponents from -5 to 15, otherwise with an exponent. -/
def json (d : Decimal) : List Char :=
  let e := (digitText d.digits).length + d.exponent - 1
  if -5 ≤ e ∧ e ≤ 15 then positional ['.', '0'] d else scientific d

end Decimal

namespace Binary64

def signText (x : Binary64) : List Char := if x.negative then ['-'] else []

/-- Plain text of a value: positional, with as few digits as read back, a tie going upward. -/
def text (x : Binary64) : List Char :=
  if x.isNaN then ['N', 'a', 'N']
  else if x.isInfinite then x.signText ++ ['i', 'n', 'f']
  else x.signText ++ (Decimal.shortest .upward x.magnitude).positional []

/-- JSON text of a value, a tie between shortest forms going to the even digit. JSON has no
infinities and no NaN: they are written as null. -/
def jsonText (x : Binary64) : List Char :=
  if x.isFinite then x.signText ++ (Decimal.shortest .toEven x.magnitude).json
  else ['n', 'u', 'l', 'l']

end Binary64

end EquityScreen
