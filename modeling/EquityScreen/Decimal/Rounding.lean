import EquityScreen.Decimal.Binary64

/-! Decimal numbers and the doubles nearest to them. Rounding is exact: the decimal is written as a
quotient of naturals in units of the least positive double, and the significand is that quotient
divided by the spacing of its binade, rounded to nearest with halves going to the even neighbour. -/
namespace EquityScreen

/-- A decimal number without sign, `digits * 10 ^ exponent`. -/
structure Decimal where
  digits : Nat
  exponent : Int
deriving DecidableEq, Repr

namespace Decimal

/-- The number that a row of decimal digits stands for. -/
def digitsValue (ds : List Char) : Nat :=
  ds.foldl (fun n c => 10 * n + (c.toNat - '0'.toNat)) 0

/-- The decimal written as digits before and after a point, scaled by a power of ten. -/
def ofDigits (whole fraction : List Char) (exponent : Int) : Decimal where
  digits := digitsValue (whole ++ fraction)
  exponent := exponent - fraction.length

/-- Quotient rounded to the nearest natural, a half going to the even neighbour. -/
def roundHalfEven (n d : Nat) : Nat :=
  let q := n / d
  let r := n % d
  if 2 * r < d then q
  else if d < 2 * r then q + 1
  else q + q % 2

/-- The magnitude nearest to `n / d` units. A quotient with more than 53 bits keeps its leading 53
and takes the rest into the scale; a significand that rounds up to `2 ^ 53` carries into it. -/
def nearestMagnitude (n d : Nat) : Nat :=
  let s := (n / d).log2 - 52
  s * 2 ^ 52 + roundHalfEven n (d * 2 ^ s)

/-- The magnitude nearest to a decimal, at most that of the infinities. Exponents so large or so
small that the digits cannot matter are answered without a power of ten. -/
def toMagnitude (d : Decimal) : Nat :=
  if d.digits = 0 ∨ (d.digits.log2 : Int) < 3 * (-d.exponent - 400) then 0
  else if 400 < d.exponent then Binary64.infiniteMagnitude
  else
    min Binary64.infiniteMagnitude
      (nearestMagnitude (d.digits * 10 ^ d.exponent.toNat * 2 ^ 1074) (10 ^ (-d.exponent).toNat))

/-- The double nearest to a signed decimal. -/
def toBinary64 (negative : Bool) (d : Decimal) : Binary64 :=
  Binary64.ofMagnitude negative d.toMagnitude

end Decimal

/-- The double nearest to a whole number. -/
def Binary64.ofInt (n : Int) : Binary64 :=
  Decimal.toBinary64 (decide (n < 0)) ⟨n.natAbs, 0⟩

end EquityScreen
