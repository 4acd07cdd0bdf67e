import EquityScreen.Decimal.Text
import EquityScreen.Decimal.Numeral
import EquityScreen.Text.Blank
import Mathlib.Data.List.Basic

/-! Rows of decimal digits: how far they reach in a text, what they stand for, and the
row that a natural number is written as. -/
namespace EquityScreen

theorem isBlank_of_isDigit {c : Char} (h : c.isDigit = true) : Text.isBlank c = false := by
  rw [Char.isDigit, Bool.and_eq_true, decide_eq_true_eq, decide_eq_true_eq] at h
  have hLow : 48 ≤ c.toNat := h.1
  have hHigh : c.toNat ≤ 57 := h.2
  rw [Bool.eq_false_iff]
  intro hBlank
  simp only [Text.isBlank, Text.blankRanges, Text.inRanges, List.any_cons, List.any_nil,
    Bool.or_eq_true, Bool.and_eq_true, decide_eq_true_eq, Bool.false_eq_true, or_false] at hBlank
  omega

theorem splitSign_unsigned {cs : List Char} (h : ∀ c ∈ cs, c ≠ '-' ∧ c ≠ '+') :
    splitSign cs = (false, cs) := by
  unfold splitSign
  split
  · exact absurd rfl (h '-' List.mem_cons_self).1
  · exact absurd rfl (h '+' List.mem_cons_self).2
  · rfl

/-- A numeral of digits alone has no sign. -/
theorem splitSign_of_digits {cs : List Char} (h : ∀ c ∈ cs, c.isDigit = true) :
    splitSign cs = (false, cs) := by
  refine splitSign_unsigned fun c hc => ⟨?_, ?_⟩ <;>
  · rintro rfl
    exact absurd (h _ hc) (by decide)

theorem spanDigits_append {digits : List Char} (hDigits : ∀ c ∈ digits, c.isDigit = true)
    {rest : List Char} (hRest : rest.head?.any Char.isDigit = false) :
    spanDigits (digits ++ rest) = (digits, rest) := by
  rw [spanDigits, List.takeWhile_append_of_pos hDigits, List.dropWhile_append_of_pos hDigits]
  cases rest with
  | nil => simp
  | cons c rest =>
      have hHead : c.isDigit = false := hRest
      simp [hHead]

theorem spanDigits_digits {digits : List Char} (hDigits : ∀ c ∈ digits, c.isDigit = true) :
    spanDigits digits = (digits, []) := by
  have hSpan : spanDigits (digits ++ []) = (digits, []) := spanDigits_append hDigits rfl
  rwa [List.append_nil] at hSpan

namespace Decimal

theorem isDigit_digitText (n : Nat) : ∀ c ∈ digitText n, c.isDigit = true := fun _ hc =>
  Nat.isDigit_of_mem_toDigits (by decide) (by decide) hc

theorem digitText_ne_nil (n : Nat) : digitText n ≠ [] := Nat.toDigits_ne_nil

theorem digitsValue_digitText (n : Nat) : digitsValue (digitText n) = n :=
  Nat.ofDigitChars_toDigits (by decide) (by decide)

theorem digitsValue_zeros_append (k : Nat) (ds : List Char) :
    digitsValue (List.replicate k '0' ++ ds) = digitsValue ds := by
  have hZeros : Nat.ofDigitChars 10 (List.replicate k '0') 0 = 0 := by
    rw [Nat.ofDigitChars_replicate_zero, Nat.mul_zero]
  calc
    digitsValue (List.replicate k '0' ++ ds) =
        Nat.ofDigitChars 10 ds (Nat.ofDigitChars 10 (List.replicate k '0') 0) :=
      Nat.ofDigitChars_append 0
    _ = digitsValue ds := by rw [hZeros]; rfl

theorem digitsValue_append_zeros (k : Nat) (ds : List Char) :
    digitsValue (ds ++ List.replicate k '0') = digitsValue ds * 10 ^ k := by
  calc
    digitsValue (ds ++ List.replicate k '0') =
        Nat.ofDigitChars 10 (List.replicate k '0') (Nat.ofDigitChars 10 ds 0) :=
      Nat.ofDigitChars_append 0
    _ = 10 ^ k * digitsValue ds := Nat.ofDigitChars_replicate_zero
    _ = digitsValue ds * 10 ^ k := Nat.mul_comm _ _

/-- A positive number is written without a leading zero. -/
theorem head_digitText {n : Nat} (h : 0 < n) : (digitText n).head? ≠ some '0' := by
  have hDigit : ∀ d < 10, 0 < d → [Nat.digitChar d].head? ≠ some '0' := by decide
  induction n using Nat.strongRecOn with
  | ind n ih =>
      by_cases hSmall : n < 10
      · rw [digitText, Nat.toDigits_of_lt_base hSmall]
        exact hDigit n hSmall h
      · have hText : digitText n = digitText (n / 10) ++ [(n % 10).digitChar] :=
          Nat.toDigits_of_base_le (by decide) (by omega)
        rw [hText, List.head?_append_of_ne_nil _ (digitText_ne_nil _)]
        exact ih (n / 10) (by omega) (by omega)

end Decimal

end EquityScreen
