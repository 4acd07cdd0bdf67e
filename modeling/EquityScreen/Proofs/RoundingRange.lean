import EquityScreen.Proofs.Digits
import EquityScreen.Proofs.NearestDouble

/-! The range of rounding. A decimal is rounded to a finite double or to an infinity and never
to a NaN, and every whole number of 64 bits is rounded to a finite double. -/
namespace EquityScreen

namespace Decimal

open Binary64

/-- A decimal that has no finite double near it is read as infinity. -/
theorem eq_infinity_of_not_finite {d : Decimal} {negative : Bool}
    (h : (d.toBinary64 negative).isFinite = false) :
    d.toBinary64 negative = .infinity negative := by
  have hMagnitude : infiniteMagnitude ≤ min infiniteMagnitude d.toMagnitude :=
    Nat.le_of_not_lt (of_decide_eq_false h)
  have hCut : min infiniteMagnitude d.toMagnitude = min infiniteMagnitude infiniteMagnitude := by
    omega
  rw [toBinary64, infinity, ofMagnitude, ofMagnitude]
  simp only [hCut]

theorem roundHalfEven_le (n d : Nat) : roundHalfEven n d ≤ n / d + 1 := by
  unfold roundHalfEven
  dsimp only
  split
  · omega
  · split <;> omega

/-- The leading 53 bits and their scale bound a magnitude. -/
theorem nearestMagnitude_le {n d s : Nat} (h : n / d < 2 ^ (s + 53)) :
    nearestMagnitude n d ≤ (s + 2) * 2 ^ 52 := by
  have hBits : (n / d).log2 - 52 ≤ s := by
    by_cases hZero : n / d = 0
    · rw [hZero]
      exact Nat.zero_le s
    · have hUpper : (n / d).log2 < s + 53 := (Nat.log2_lt hZero).mpr h
      omega
  have hLeading : n / (d * 2 ^ ((n / d).log2 - 52)) < 2 ^ 53 := by
    rw [← Nat.div_div_eq_div_mul, Nat.div_lt_iff_lt_mul (Nat.two_pow_pos _), ← Nat.pow_add]
    exact Nat.lt_of_lt_of_le Nat.lt_log2_self (Nat.pow_le_pow_right (by decide) (by omega))
  have hRound := roundHalfEven_le n (d * 2 ^ ((n / d).log2 - 52))
  rw [nearestMagnitude]
  omega

/-- Whole numbers of 64 bits are in the range of finite doubles. -/
theorem isFinite_of_whole {n : Nat} (h : n < 2 ^ 64) (negative : Bool) :
    (toBinary64 negative ⟨n, 0⟩).isFinite = true := by
  have hMagnitude : toMagnitude ⟨n, 0⟩ < infiniteMagnitude := by
    unfold toMagnitude
    split
    · decide
    · have hSmall : ¬(400 : Int) < 0 := by decide
      rw [if_neg hSmall]
      dsimp only
      have hUnits : n * 10 ^ (0 : Int).toNat * 2 ^ 1074 / 10 ^ (-0 : Int).toNat <
          2 ^ (1085 + 53) := by
        obtain ⟨bits, hBits⟩ : ∃ bits, 1074 = bits := ⟨_, rfl⟩
        have hExponent : 1085 + 53 = 64 + bits := by omega
        have hZero : (0 : Int).toNat = 0 ∧ (-0 : Int).toNat = 0 := ⟨rfl, rfl⟩
        rw [hBits, hExponent, hZero.1, hZero.2, Nat.pow_zero, Nat.mul_one, Nat.div_one, Nat.pow_add]
        exact Nat.mul_lt_mul_of_pos_right h (Nat.two_pow_pos bits)
      have hNearest := nearestMagnitude_le hUnits
      unfold infiniteMagnitude
      omega
  rw [Binary64.isFinite, toBinary64, ofMagnitude]
  exact decide_eq_true (lt_of_le_of_lt (Nat.min_le_right _ _) hMagnitude)

end Decimal

/-- What a numeral stands for, if not a finite double, is an infinity or a NaN. -/
theorem Binary64.ofNumeral?_cases {cs : List Char} {x : Binary64}
    (h : Binary64.ofNumeral? cs = some x) :
    x.isFinite = true ∨ ∃ negative, x = .infinity negative ∨ x = .nan negative := by
  unfold ofNumeral? at h
  dsimp only at h
  split at h
  · next d _ =>
      cases h
      cases hFinite : (d.toBinary64 (splitSign cs).1).isFinite with
      | true => exact .inl rfl
      | false => exact .inr ⟨_, .inl (Decimal.eq_infinity_of_not_finite hFinite)⟩
  · split at h
    · cases h
      exact .inr ⟨_, .inl rfl⟩
    · split at h
      · cases h
        exact .inr ⟨_, .inr rfl⟩
      · cases h

end EquityScreen
