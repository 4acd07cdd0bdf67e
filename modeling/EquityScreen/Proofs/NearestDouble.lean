import EquityScreen.Decimal.Shortest
import Mathlib.Tactic.Ring
import Mathlib.Tactic.Linarith

/-! Decimals in the interval of a magnitude are rounded to that magnitude. All
comparisons are between naturals: a decimal is `n / d` units, and the ends of the
interval are in quarters of a unit. The shortest decimal of a double lies in the
interval of its magnitude, so that it reads back to the double. -/
namespace EquityScreen

namespace Binary64

/-! A magnitude is its scale and its significand. -/

theorem scale_add_significand (m : Nat) : scale m * 2 ^ 52 + significand m = m := by
  unfold significand scale
  omega

theorem significand_lt (m : Nat) : significand m < 2 ^ 53 := by
  unfold significand scale
  omega

/-- Above the least scale all 53 bits are in use. -/
theorem le_significand {m : Nat} (h : 0 < scale m) : 2 ^ 52 ≤ significand m := by
  unfold significand
  unfold scale at h ⊢
  omega

theorem significand_mod_two (m : Nat) : significand m % 2 = m % 2 := by
  have hParts := scale_add_significand m
  omega

theorem scale_le {m : Nat} (h : m < infiniteMagnitude) : scale m ≤ 2045 := by
  unfold infiniteMagnitude at h
  unfold scale
  omega

end Binary64

namespace Decimal

open Binary64

/-- A quotient within half a unit of `c` is rounded to `c`; at exactly half a unit only
if `c` is even. -/
theorem roundHalfEven_eq {n d c : Nat} (hd : 0 < d) (hLow : 2 * (c * d) ≤ 2 * n + d)
    (hHigh : 2 * n ≤ 2 * (c * d) + d)
    (hOdd : c % 2 = 1 → 2 * (c * d) < 2 * n + d ∧ 2 * n < 2 * (c * d) + d) :
    roundHalfEven n d = c := by
  have hDivision : n / d * d + n % d = n := Nat.div_add_mod' n d
  have hRemainder : n % d < d := Nat.mod_lt n hd
  unfold roundHalfEven
  generalize n / d = q at *
  generalize n % d = r at *
  subst hDivision
  have hFloor : q ≤ c := by
    by_contra hLess
    have hProduct : (c + 1) * d ≤ q * d := Nat.mul_le_mul_right d (by omega)
    rw [Nat.add_mul] at hProduct
    omega
  have hCeiling : c ≤ q + 1 := by
    by_contra hMore
    have hProduct : (q + 2) * d ≤ c * d := Nat.mul_le_mul_right d (by omega)
    rw [Nat.add_mul] at hProduct
    omega
  rcases Nat.eq_or_lt_of_le hFloor with rfl | hLess
  · dsimp only
    split
    · rfl
    · split <;> omega
  · obtain rfl : c = q + 1 := by omega
    rw [Nat.add_mul] at hLow hHigh hOdd
    dsimp only
    split
    · omega
    · split <;> omega

/-- A quotient of 53 bits above the scale, or of at most 53 bits at the least scale, is
rounded at that scale. -/
theorem nearestMagnitude_of_scale {n d s c : Nat} (hd : 0 < d)
    (hBits : s = 0 ∨ 2 ^ 52 * (d * 2 ^ s) ≤ n) (hLess : n < 2 ^ 53 * (d * 2 ^ s))
    (hRound : roundHalfEven n (d * 2 ^ s) = c) : nearestMagnitude n d = s * 2 ^ 52 + c := by
  have hHigh : n / d < 2 ^ (s + 53) := by
    rw [Nat.div_lt_iff_lt_mul hd, Nat.pow_add]
    calc
      n < 2 ^ 53 * (d * 2 ^ s) := hLess
      _ = 2 ^ s * 2 ^ 53 * d := by ring
  have hScale : (n / d).log2 - 52 = s := by
    by_cases hZero : n / d = 0
    · rcases hBits with rfl | hBits
      · rw [hZero]
        rfl
      · have hUnit : 1 ≤ d * 2 ^ s := Nat.mul_pos hd (Nat.two_pow_pos s)
        have hAtLeast : d ≤ n := by
          calc
            d ≤ d * 2 ^ s := Nat.le_mul_of_pos_right d (Nat.two_pow_pos s)
            _ ≤ 2 ^ 52 * (d * 2 ^ s) := Nat.le_mul_of_pos_left _ (by decide)
            _ ≤ n := hBits
        have hPositive := Nat.div_pos hAtLeast hd
        omega
    · have hUpper : (n / d).log2 < s + 53 := (Nat.log2_lt hZero).mpr hHigh
      rcases hBits with rfl | hBits
      · omega
      · have hLower : s + 52 ≤ (n / d).log2 := by
          rw [Nat.le_log2 hZero, Nat.le_div_iff_mul_le hd, Nat.pow_add]
          calc
            2 ^ s * 2 ^ 52 * d = 2 ^ 52 * (d * 2 ^ s) := by ring
            _ ≤ n := hBits
        omega
  rw [nearestMagnitude, hScale, hRound]

/-- In the interval of a magnitude the leading 53 bits and their scale come out as
those of the magnitude. Just below a power of two the quotient has one bit less, and
its significand is rounded up into the next binade. -/
theorem nearestMagnitude_eq {n d m : Nat} (hd : 0 < d) (hLow : lowerEnd m * d ≤ 4 * n)
    (hHigh : 4 * n ≤ upperEnd m * d)
    (hOdd : m % 2 = 1 → lowerEnd m * d < 4 * n ∧ 4 * n < upperEnd m * d) :
    nearestMagnitude n d = m := by
  have hParts := scale_add_significand m
  have hSignificand := significand_lt m
  have hNormal := @le_significand m
  have hParity := significand_mod_two m
  unfold lowerEnd at hLow hOdd
  unfold upperEnd at hHigh hOdd
  generalize significand m = c at *
  generalize scale m = s at *
  have hUnit : 0 < d * 2 ^ s := Nat.mul_pos hd (Nat.two_pow_pos s)
  have hFactor (k : Nat) : k * 2 ^ s * d = k * (d * 2 ^ s) := by ring
  have hUpper : (4 * c + 2) * (d * 2 ^ s) = 4 * (c * (d * 2 ^ s)) + 2 * (d * 2 ^ s) := by ring
  have hMost : c * (d * 2 ^ s) ≤ (2 ^ 53 - 1) * (d * 2 ^ s) := Nat.mul_le_mul_right _ (by omega)
  simp only [hFactor, hUpper] at hLow hHigh hOdd
  by_cases hBits : s = 0 ∨ 2 ^ 52 * (d * 2 ^ s) ≤ n
  · have hLess : n < 2 ^ 53 * (d * 2 ^ s) := by omega
    rw [nearestMagnitude_of_scale hd hBits hLess ?_, hParts]
    have hLower : (4 * c - 2) * (d * 2 ^ s) = 4 * (c * (d * 2 ^ s)) - 2 * (d * 2 ^ s) := by
      rw [Nat.sub_mul]
      ring_nf
    have hEnd : (4 * c - 2) * (d * 2 ^ s) ≤
        (if c = 2 ^ 52 ∧ 0 < s then 4 * c - 1 else 4 * c - 2) * (d * 2 ^ s) := by
      refine Nat.mul_le_mul_right _ ?_
      split <;> omega
    exact roundHalfEven_eq hUnit (by omega) (by omega) (by omega)
  · rw [not_or, not_le] at hBits
    obtain ⟨t, rfl⟩ := Nat.exists_eq_add_one_of_ne_zero hBits.1
    have hTwice : d * 2 ^ (t + 1) = 2 * (d * 2 ^ t) := by ring
    have hFirst : c = 2 ^ 52 := by
      by_contra hOther
      have hNot : ¬(c = 2 ^ 52 ∧ 0 < t + 1) := fun h => hOther h.1
      have hNext := hNormal (Nat.succ_pos t)
      rw [if_neg hNot] at hLow
      have hLeast : (4 * (2 ^ 52 + 1) - 2) * (d * 2 ^ (t + 1)) ≤
          (4 * c - 2) * (d * 2 ^ (t + 1)) := Nat.mul_le_mul_right _ (by omega)
      omega
    rw [if_pos ⟨hFirst, Nat.succ_pos t⟩, hFirst, hTwice] at hLow
    rw [hTwice] at hBits
    have hUnit' : 0 < d * 2 ^ t := Nat.mul_pos hd (Nat.two_pow_pos t)
    have hRound : roundHalfEven n (d * 2 ^ t) = 2 ^ 53 :=
      roundHalfEven_eq hUnit' (by omega) (by omega) (by omega)
    have hAtLeast : 2 ^ 52 * (d * 2 ^ t) ≤ n := by omega
    have hLess : n < 2 ^ 53 * (d * 2 ^ t) := by omega
    have hMagnitude := nearestMagnitude_of_scale hd (.inr hAtLeast) hLess hRound
    omega

/-! From the interval of a finite magnitude to the rounding of a decimal. -/

theorem RoundsTo.le {d : Decimal} {m : Nat} (h : d.RoundsTo m) :
    lowerEnd m * 10 ^ (-d.exponent).toNat ≤ d.digits * 10 ^ d.exponent.toNat * 2 ^ 1076 ∧
    d.digits * 10 ^ d.exponent.toNat * 2 ^ 1076 ≤ upperEnd m * 10 ^ (-d.exponent).toNat := by
  unfold RoundsTo at h
  dsimp only at h
  split at h
  · exact h
  · exact ⟨h.1.le, h.2.le⟩

theorem RoundsTo.lt {d : Decimal} {m : Nat} (h : d.RoundsTo m) (hOdd : m % 2 = 1) :
    lowerEnd m * 10 ^ (-d.exponent).toNat < d.digits * 10 ^ d.exponent.toNat * 2 ^ 1076 ∧
    d.digits * 10 ^ d.exponent.toNat * 2 ^ 1076 < upperEnd m * 10 ^ (-d.exponent).toNat := by
  unfold RoundsTo at h
  dsimp only at h
  rwa [if_neg (by omega)] at h

/-- Only around zero the interval reaches down to zero. -/
theorem lowerEnd_pos {m : Nat} (h : 0 < m) : 0 < lowerEnd m := by
  have hParts := scale_add_significand m
  have hNormal := @le_significand m
  refine Nat.mul_pos ?_ (Nat.two_pow_pos _)
  split <;> omega

theorem upperEnd_lt (m : Nat) : upperEnd m < 2 ^ (55 + scale m) := by
  have hSignificand := significand_lt m
  rw [Nat.pow_add]
  exact Nat.mul_lt_mul_of_pos_right (by omega) (Nat.two_pow_pos _)

/-- Decimals that round to a finite magnitude are below `2 ^ 1024`. -/
theorem RoundsTo.bounded {d : Decimal} {m : Nat} (h : d.RoundsTo m)
    (hFinite : m < infiniteMagnitude) :
    d.digits * 10 ^ d.exponent.toNat < 2 ^ 1024 * 10 ^ (-d.exponent).toNat := by
  have hOne : 0 < 10 ^ (-d.exponent).toNat := Nat.pow_pos (by decide)
  have hScale := scale_le hFinite
  have hUpper := h.le.2
  -- The powers stay names, since writing them out helps nowhere.
  generalize hBits : 1076 = bits at hUpper
  generalize hLimit : 1024 = limit
  have hEnd : upperEnd m < 2 ^ limit * 2 ^ bits := by
    rw [← Nat.pow_add]
    exact (upperEnd_lt m).trans_le (Nat.pow_le_pow_right (by decide) (by omega))
  refine Nat.lt_of_mul_lt_mul_right (a := 2 ^ bits) (hUpper.trans_lt ?_)
  rw [Nat.mul_right_comm]
  exact Nat.mul_lt_mul_of_pos_right hEnd hOne

theorem two_pow_le_ten_pow {b k : Nat} (h : b ≤ 3 * k) : 2 ^ b ≤ 10 ^ k := by
  calc
    2 ^ b ≤ 2 ^ (3 * k) := Nat.pow_le_pow_right (by decide) h
    _ = (2 ^ 3) ^ k := Nat.pow_mul 2 3 k
    _ ≤ 10 ^ k := Nat.pow_le_pow_left (by decide) k

/-- A decimal below a quarter of a unit is in no interval but that around zero. -/
theorem RoundsTo.eq_zero {d : Decimal} {m : Nat} (h : d.RoundsTo m)
    (hSmall : d.digits * 10 ^ d.exponent.toNat * 2 ^ 1076 < 10 ^ (-d.exponent).toNat) :
    m = 0 := by
  by_contra hNonzero
  have hLower := lowerEnd_pos (Nat.pos_of_ne_zero hNonzero)
  have hAtLeast : 10 ^ (-d.exponent).toNat ≤ lowerEnd m * 10 ^ (-d.exponent).toNat :=
    Nat.le_mul_of_pos_left _ hLower
  exact absurd (hAtLeast.trans h.le.1) (Nat.not_le_of_lt hSmall)

/-- Decimals whose digits cannot matter because the exponent is so small. -/
theorem small_of_log2 {d : Decimal}
    (h : d.digits = 0 ∨ (d.digits.log2 : Int) < 3 * (-d.exponent - 400)) :
    d.digits * 10 ^ d.exponent.toNat * 2 ^ 1076 < 10 ^ (-d.exponent).toNat := by
  generalize hBits : 1076 = bits
  rcases h with hZero | hSmall
  · rw [hZero, Nat.zero_mul, Nat.zero_mul]
    exact Nat.pow_pos (by decide)
  · obtain ⟨j, k, hj, hk⟩ : ∃ j k : Nat, j = 400 ∧ (-d.exponent).toNat = k + j :=
      ⟨400, (-d.exponent).toNat - 400, rfl, by omega⟩
    have hDigits : d.digits < 10 ^ k := by
      calc
        d.digits < 2 ^ (d.digits.log2 + 1) := Nat.lt_log2_self
        _ ≤ 10 ^ k := two_pow_le_ten_pow (by omega)
    have hScale : 2 ^ bits ≤ 10 ^ j := two_pow_le_ten_pow (by omega)
    have hExponent : d.exponent.toNat = 0 := by omega
    rw [hExponent, hk, Nat.pow_zero, Nat.mul_one, Nat.pow_add]
    exact Nat.mul_lt_mul_of_lt_of_le hDigits hScale (Nat.pow_pos (by decide))

/-- Units and quarters of a unit. -/
theorem quarters_eq (n : Nat) : n * 2 ^ 1076 = 4 * (n * 2 ^ 1074) := by
  obtain ⟨bits, hUnits, hQuarters⟩ : ∃ bits, 1074 = bits ∧ 1076 = bits + 2 := ⟨_, rfl, rfl⟩
  rw [hUnits, hQuarters, Nat.pow_add]
  ring

/-- A decimal in the interval of a finite magnitude is rounded to it. -/
theorem toMagnitude_of_roundsTo {d : Decimal} {m : Nat} (h : d.RoundsTo m)
    (hFinite : m < infiniteMagnitude) : d.toMagnitude = m := by
  unfold toMagnitude
  split
  · next hSmall => exact (h.eq_zero (small_of_log2 hSmall)).symm
  · next hDigits =>
      split
      · next hLarge =>
          have hBounded := h.bounded hFinite
          generalize hLimit : 1024 = limit at hBounded
          have hNone : (-d.exponent).toNat = 0 := by omega
          have hTooMuch : 2 ^ limit ≤ d.digits * 10 ^ d.exponent.toNat := by
            calc
              2 ^ limit ≤ 10 ^ d.exponent.toNat := two_pow_le_ten_pow (by omega)
              _ ≤ d.digits * 10 ^ d.exponent.toNat := Nat.le_mul_of_pos_left _ (by omega)
          rw [hNone, Nat.pow_zero, Nat.mul_one] at hBounded
          exact absurd hTooMuch (Nat.not_le_of_lt hBounded)
      · have hQuarters := quarters_eq (d.digits * 10 ^ d.exponent.toNat)
        have hNearest : nearestMagnitude (d.digits * 10 ^ d.exponent.toNat * 2 ^ 1074)
            (10 ^ (-d.exponent).toNat) = m := by
          have hLe := h.le
          have hLt := h.lt
          rw [hQuarters] at hLe hLt
          exact nearestMagnitude_eq (Nat.pow_pos (by decide)) hLe.1 hLe.2 hLt
        rw [hNearest, Nat.min_eq_right hFinite.le]

/-! The interval holds values, however they are written. -/

/-- A zero moved from the digits into the exponent changes nothing. -/
theorem roundsTo_shift (n : Nat) (e : Int) (m : Nat) :
    RoundsTo ⟨10 * n, e⟩ m ↔ RoundsTo ⟨n, e + 1⟩ m := by
  unfold RoundsTo
  dsimp only
  generalize 2 ^ 1076 = quarter
  by_cases h : 0 ≤ e
  · have hUp : (e + 1).toNat = e.toNat + 1 := by omega
    have hDown : (-e).toNat = 0 ∧ (-(e + 1)).toNat = 0 := by omega
    have hSame : 10 * n * 10 ^ e.toNat = n * 10 ^ (e.toNat + 1) := by ring
    rw [hUp, hDown.1, hDown.2, hSame]
  · have hUp : e.toNat = 0 ∧ (e + 1).toNat = 0 := by omega
    have hDown : (-e).toNat = (-(e + 1)).toNat + 1 := by omega
    have hEnd (k : Nat) : k * 10 ^ ((-(e + 1)).toNat + 1) = 10 * (k * 10 ^ (-(e + 1)).toNat) := by
      ring
    have hDigits : 10 * n * 10 ^ 0 * quarter = 10 * (n * 10 ^ 0 * quarter) := by ring
    rw [hUp.1, hUp.2, hDown]
    simp only [hEnd, hDigits]
    split <;> omega

/-- The decimal with zeros added to its digits. -/
def withZeros (d : Decimal) (k : Nat) : Decimal := ⟨d.digits * 10 ^ k, d.exponent - k⟩

theorem withZeros_zero (d : Decimal) : d.withZeros 0 = d := by
  simp [withZeros]

theorem roundsTo_withZeros (d : Decimal) (k m : Nat) :
    (d.withZeros k).RoundsTo m ↔ d.RoundsTo m := by
  induction k with
  | zero => rw [withZeros_zero]
  | succ k ih =>
      have hDigits : d.digits * 10 ^ (k + 1) = 10 * (d.digits * 10 ^ k) := by ring
      have hExponent : d.exponent - ((k + 1 : Nat) : Int) + 1 = d.exponent - k := by omega
      rw [withZeros, hDigits, roundsTo_shift, hExponent]
      exact ih

theorem roundsTo_stripZeros (k : Nat) (d : Decimal) (m : Nat) :
    (stripZeros k d).RoundsTo m ↔ d.RoundsTo m := by
  induction k generalizing d with
  | zero => rfl
  | succ k ih =>
      rw [stripZeros]
      split
      · next hZero =>
          have hDigits : 10 * (d.digits / 10) = d.digits := by omega
          have hShift := roundsTo_shift (d.digits / 10) d.exponent m
          rw [hDigits] at hShift
          rw [ih, ← hShift]
      · rfl

theorem units_lt_upperEnd (m : Nat) : 4 * units m < upperEnd m := by
  have hUnit := Nat.two_pow_pos (scale m)
  calc
    4 * units m = 4 * significand m * 2 ^ scale m := by
      rw [units]
      ring
    _ < upperEnd m := Nat.mul_lt_mul_of_pos_right (by omega) hUnit

theorem lowerEnd_lt_units {m : Nat} (h : 0 < m) : lowerEnd m < 4 * units m := by
  have hUnit := Nat.two_pow_pos (scale m)
  have hParts := scale_add_significand m
  have hNormal := @le_significand m
  calc
    lowerEnd m < 4 * significand m * 2 ^ scale m := by
      refine Nat.mul_lt_mul_of_pos_right ?_ hUnit
      split <;> omega
    _ = 4 * units m := by
      rw [units]
      ring

/-- A decimal that stands for exactly the units of a magnitude lies in its interval. -/
theorem roundsTo_of_units {n k m : Nat} (h : n * 2 ^ 1076 = 4 * units m * 10 ^ k) :
    RoundsTo ⟨n, -(k : Int)⟩ m := by
  have hOne : 0 < 10 ^ k := Nat.pow_pos (by decide)
  have hUpper := Nat.mul_lt_mul_of_pos_right (units_lt_upperEnd m) hOne
  have hUp : (-(k : Int)).toNat = 0 := by omega
  have hDown : (-(-(k : Int))).toNat = k := by omega
  unfold RoundsTo
  dsimp only
  rw [hUp, hDown, Nat.pow_zero, Nat.mul_one, h]
  rcases Nat.eq_zero_or_pos m with rfl | hPositive
  · have hLower : lowerEnd 0 = 0 := rfl
    rw [if_pos rfl, hLower, Nat.zero_mul]
    exact ⟨Nat.zero_le _, hUpper.le⟩
  · have hLower := Nat.mul_lt_mul_of_pos_right (lowerEnd_lt_units hPositive) hOne
    split
    · exact ⟨hLower.le, hUpper.le⟩
    · exact ⟨hLower, hUpper⟩

theorem roundsTo_exact (m : Nat) : (exact m).RoundsTo m := by
  have hExact : units m * 5 ^ 1074 * 2 ^ 1076 = 4 * units m * 10 ^ 1074 := by
    obtain ⟨bits, hUnits, hQuarters⟩ : ∃ bits, 1074 = bits ∧ 1076 = bits + 2 := ⟨_, rfl, rfl⟩
    have hTen : 10 ^ bits = 5 ^ bits * 2 ^ bits := Nat.mul_pow 5 2 bits
    rw [hUnits, hQuarters, hTen, Nat.pow_add]
    ring
  exact roundsTo_of_units (k := 1074) hExact

theorem roundsTo_onGrid {tie : Tie} {m : Nat} {e : Int} {d : Decimal}
    (h : onGrid? tie m e = some d) : d.RoundsTo m := by
  unfold onGrid? at h
  generalize gridNeighbours tie m e = neighbours at h
  obtain ⟨near, far⟩ := neighbours
  dsimp only at h
  split at h
  · next hNear => rwa [← Option.some.inj h]
  · split at h
    · next hFar => rwa [← Option.some.inj h]
    · cases h

/-- The shortest decimal of a magnitude lies in the interval of the magnitude. -/
theorem roundsTo_shortest (tie : Tie) (m : Nat) : (shortest tie m).RoundsTo m := by
  unfold shortest
  split
  · next hZero =>
      subst hZero
      have hNone : units 0 = 0 := rfl
      have hExact : 0 * 2 ^ 1076 = 4 * units 0 * 10 ^ 0 := by
        generalize 1076 = bits
        rw [hNone, Nat.zero_mul, Nat.mul_zero, Nat.zero_mul]
      exact roundsTo_of_units hExact
  · dsimp only
    split
    · next d hGrid =>
        obtain ⟨i, -, hPoint⟩ := List.exists_of_findSome?_eq_some hGrid
        rw [roundsTo_stripZeros]
        exact roundsTo_onGrid hPoint
    · exact roundsTo_exact m

end Decimal

end EquityScreen
