import EquityScreen.Decimal.Rounding

/-! Numerals as they stand in data cells and on the command line: an optional sign, then digits with
at most one point and an optional exponent, or one of the words for infinity and NaN in any case. -/
namespace EquityScreen

/-- The leading digits of a text, and what follows them. -/
def spanDigits (cs : List Char) : List Char × List Char :=
  (cs.takeWhile Char.isDigit, cs.dropWhile Char.isDigit)

/-- Digits, then perhaps a point and further digits: the digits before and after the point, and
what follows. -/
def spanDecimal (cs : List Char) : List Char × List Char × List Char :=
  let (whole, rest) := spanDigits cs
  match rest with
  | '.' :: rest =>
    let (fraction, rest) := spanDigits rest
    (whole, fraction, rest)
  | rest => (whole, [], rest)

/-- Take an optional sign off the front of a numeral. -/
def splitSign : List Char → Bool × List Char
  | '-' :: rest => (true, rest)
  | '+' :: rest => (false, rest)
  | rest => (false, rest)

/-- The exponent part of a numeral, which must reach to the end of the text. -/
def exponentPart? : List Char → Option Int
  | [] => some 0
  | e :: rest =>
    if e = 'e' ∨ e = 'E' then
      let (negative, rest) := splitSign rest
      let (digits, rest) := spanDigits rest
      if digits.isEmpty ∨ !rest.isEmpty then none
      else
        let n : Int := Decimal.digitsValue digits
        some (if negative then -n else n)
    else none

/-- A finite decimal numeral without sign. -/
def Decimal.ofNumeral? (cs : List Char) : Option Decimal :=
  let (whole, fraction, rest) := spanDecimal cs
  if whole.isEmpty ∧ fraction.isEmpty then none
  else (exponentPart? rest).map fun e => Decimal.ofDigits whole fraction e

/-- The double that a numeral names. -/
def Binary64.ofNumeral? (cs : List Char) : Option Binary64 :=
  let (negative, body) := splitSign cs
  match Decimal.ofNumeral? body with
  | some d => some (d.toBinary64 negative)
  | none =>
    let word := body.map Char.toLower
    if word = "inf".toList ∨ word = "infinity".toList then some (Binary64.infinity negative)
    else if word = "nan".toList then some (Binary64.nan negative)
    else none

/-- A whole number within bounds: digits after an optional sign, nothing else. -/
def boundedInt? (low high : Int) (cs : List Char) : Option Int :=
  let (negative, digits) := splitSign cs
  if digits.isEmpty ∨ !digits.all Char.isDigit then none
  else
    let n : Int := Decimal.digitsValue digits
    let n := if negative then -n else n
    if low ≤ n ∧ n ≤ high then some n else none

/-- A natural number below `2 ^ 64`: digits after an optional plus sign. -/
def word64? (cs : List Char) : Option Nat :=
  if cs.head? = some '-' then none else (boundedInt? 0 (2 ^ 64 - 1) cs).map Int.toNat

end EquityScreen
