import EquityScreen.ScreenState
import EquityScreen.Proofs.Digits
import EquityScreen.Proofs.Trimming

/-! Page numbers as text. A page number is written in decimal digits, and every
positive 64-bit number reads back from them. -/
namespace EquityScreen

theorem toList_toString (n : Nat) : (toString n).toList = Nat.toDigits 10 n := Nat.toList_repr

private theorem isDigit_of_mem {n : Nat} {c : Char} (h : c ∈ (toString n).toList) :
    c.isDigit = true := by
  rw [toList_toString] at h
  exact Decimal.isDigit_digitText n c h

theorem trim_toString (n : Nat) : Text.trim (toString n).toList = (toString n).toList :=
  Text.trim_of_no_blank fun _ hc => isBlank_of_isDigit (isDigit_of_mem hc)

theorem digitsValue_toString (n : Nat) : Decimal.digitsValue (toString n).toList = n := by
  rw [toList_toString]
  exact Decimal.digitsValue_digitText n

theorem word64?_toString {n : Nat} (h : n < 2 ^ 64) : word64? (toString n).toList = some n := by
  have hDigits : ∀ c ∈ (toString n).toList, c.isDigit = true := fun _ => isDigit_of_mem
  have hSign : (toString n).toList.head? ≠ some '-' := fun hHead =>
    absurd (hDigits '-' (List.mem_of_head? hHead)) (by decide)
  have hEmpty : (toString n).toList.isEmpty = false := by
    rw [toList_toString]
    exact List.isEmpty_eq_false_iff.mpr Nat.toDigits_ne_nil
  have hAll : (toString n).toList.all Char.isDigit = true := List.all_eq_true.mpr hDigits
  have hRange : (0 : Int) ≤ n ∧ (n : Int) ≤ 2 ^ 64 - 1 := by omega
  rw [word64?, if_neg hSign, boundedInt?, splitSign_of_digits hDigits]
  simp only [hEmpty, hAll, digitsValue_toString, hRange, and_self, Bool.not_true,
    Bool.false_eq_true, or_self, if_false, if_true, Option.map_some, Int.toNat_natCast]

theorem boundedInt?_bounds {low high n : Int} {cs : List Char}
    (h : boundedInt? low high cs = some n) : low ≤ n ∧ n ≤ high := by
  simp only [boundedInt?, Option.ite_none_left_eq_some, Option.ite_none_right_eq_some,
    Option.some.injEq] at h
  obtain ⟨_, hBounds, hValue⟩ := h
  rwa [hValue] at hBounds

theorem word64?_lt {cs : List Char} {n : Nat} (h : word64? cs = some n) : n < 2 ^ 64 := by
  rw [word64?, Option.ite_none_left_eq_some, Option.map_eq_some_iff] at h
  obtain ⟨_, value, hValue, rfl⟩ := h
  have hBounds := boundedInt?_bounds hValue
  omega

end EquityScreen
