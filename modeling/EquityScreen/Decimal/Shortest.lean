import EquityScreen.Decimal.Rounding

/-! The fewest decimal digits that read back to a double. The reals that round to a magnitude form
an interval; the grids of one digit, two digits and so on are tried in turn, and on the first grid
with a point in the interval the point nearest to the value is taken. -/
namespace EquityScreen

namespace Decimal

/-- Where a value halfway between two equally short decimals goes. -/
inductive Tie where
  | toEven
  | upward
deriving DecidableEq, Repr

/-- Lower end of the interval that rounds to a magnitude, in quarters of a unit. Just above a power
of two the neighbour below is only half as far away as the neighbour above. -/
def lowerEnd (magnitude : Nat) : Nat :=
  let c := Binary64.significand magnitude
  let s := Binary64.scale magnitude
  (if c = 2 ^ 52 ∧ 0 < s then 4 * c - 1 else 4 * c - 2) * 2 ^ s

/-- Upper end of the interval that rounds to a magnitude, in quarters of a unit. -/
def upperEnd (magnitude : Nat) : Nat :=
  (4 * Binary64.significand magnitude + 2) * 2 ^ Binary64.scale magnitude

/-- The decimal lies among the reals that round to the magnitude. The ends of the interval belong
to it when the magnitude is even. -/
def RoundsTo (d : Decimal) (magnitude : Nat) : Prop :=
  let n := d.digits * 10 ^ d.exponent.toNat * 2 ^ 1076
  let one := 10 ^ (-d.exponent).toNat
  if magnitude % 2 = 0 then lowerEnd magnitude * one ≤ n ∧ n ≤ upperEnd magnitude * one
  else lowerEnd magnitude * one < n ∧ n < upperEnd magnitude * one

instance (d : Decimal) (magnitude : Nat) : Decidable (d.RoundsTo magnitude) := by
  unfold RoundsTo; infer_instance

/-- The two neighbours of a magnitude on the grid of multiples of `10 ^ exponent`, nearest first. -/
def gridNeighbours (tie : Tie) (magnitude : Nat) (exponent : Int) : Decimal × Decimal :=
  let n := Binary64.units magnitude * 10 ^ (-exponent).toNat
  let d := 2 ^ 1074 * 10 ^ exponent.toNat
  let low := n / d
  let r := n % d
  let near :=
    if 2 * r < d then low
    else if d < 2 * r then low + 1
    else match tie with
      | .toEven => low + low % 2
      | .upward => low + 1
  (⟨near, exponent⟩, ⟨2 * low + 1 - near, exponent⟩)

/-- The point of a grid that reads back to a magnitude, if there is one. -/
def onGrid? (tie : Tie) (magnitude : Nat) (exponent : Int) : Option Decimal :=
  let (near, far) := gridNeighbours tie magnitude exponent
  if near.RoundsTo magnitude then some near
  else if far.RoundsTo magnitude then some far
  else none

/-- The finite magnitude is below `10 ^ k`. -/
def BelowPowerOfTen (magnitude : Nat) (k : Int) : Prop :=
  Binary64.units magnitude * 10 ^ (-k).toNat < 2 ^ 1074 * 10 ^ k.toNat

instance (magnitude : Nat) (k : Int) : Decidable (BelowPowerOfTen magnitude k) := by
  unfold BelowPowerOfTen; infer_instance

/-- The number of digits before the point of a positive magnitude, zero or negative for values
below one tenth: an estimate from the binary logarithm, corrected by comparisons. -/
def leadingPosition (magnitude : Nat) : Int :=
  let guess := ((Binary64.units magnitude).log2 - 1074 : Int) * 30103 / 100000
  if BelowPowerOfTen magnitude guess then guess
  else if BelowPowerOfTen magnitude (guess + 1) then guess + 1
  else guess + 2

/-- The exact decimal value of a finite magnitude. -/
def exact (magnitude : Nat) : Decimal :=
  ⟨Binary64.units magnitude * 5 ^ 1074, -1074⟩

/-- Move up to `n` trailing zeros of the digits into the exponent. -/
def stripZeros : Nat → Decimal → Decimal
  | 0, d => d
  | n + 1, d =>
    if d.digits ≠ 0 ∧ d.digits % 10 = 0 then stripZeros n ⟨d.digits / 10, d.exponent + 1⟩ else d

/-- The shortest decimal that reads back to a finite magnitude. -/
def shortest (tie : Tie) (magnitude : Nat) : Decimal :=
  if magnitude = 0 then ⟨0, 0⟩
  else
    let top := leadingPosition magnitude
    match (List.range 17).findSome? fun i : Nat => onGrid? tie magnitude (top - 1 - (i : Int)) with
    | some d => stripZeros 17 d
    | none => exact magnitude

end Decimal

end EquityScreen
