/-! Sets of characters given as ranges of code points. -/
namespace EquityScreen.Text

/-- The code point of a character lies in one of the ranges, both ends included. -/
def inRanges (ranges : List (Nat × Nat)) (c : Char) : Bool :=
  ranges.any fun r => r.1 ≤ c.toNat && c.toNat ≤ r.2

end EquityScreen.Text
