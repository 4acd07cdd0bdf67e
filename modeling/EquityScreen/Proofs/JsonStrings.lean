import EquityScreen.Json.Reader
import Mathlib.Tactic.Common

/-! Strings in JSON. A character may be written in several ways, as itself or by an escape,
and from each of them it is read back, whatever follows the closing quote. -/
namespace EquityScreen.Json

/-- The written forms of a character inside a string: itself, a letter after a backslash, its
code in hexadecimal digits, or a surrogate pair of such codes. -/
inductive CharForm : Char → List Char → Prop
  | plain {c : Char} (hQuote : c ≠ '"') (hBackslash : c ≠ '\\') (hVisible : 0x20 ≤ c.toNat) :
      CharForm c [c]
  | letter {c e : Char} (h : simpleEscape? e = some c) : CharForm c ['\\', e]
  | code {digits : List Char} {n : Nat} (h : hexDigits? digits = some (n, []))
      (hAlone : n < 0xD800 ∨ 0xDFFF < n) : CharForm (Char.ofNat n) ('\\' :: 'u' :: digits)
  | pair {high low : List Char} {m n : Nat} (hHigh : hexDigits? high = some (m, []))
      (hLow : hexDigits? low = some (n, [])) (hFirst : 0xD800 ≤ m ∧ m ≤ 0xDBFF)
      (hSecond : 0xDC00 ≤ n ∧ n ≤ 0xDFFF) :
      CharForm (Char.ofNat ((m - 0xD800) * 0x400 + (n - 0xDC00) + 0x10000))
        ('\\' :: 'u' :: (high ++ '\\' :: 'u' :: low))

/-- The written forms of a text between quotes. -/
inductive BodyForm : List Char → List Char → Prop
  | nil : BodyForm [] []
  | cons {c : Char} {s form forms : List Char} (hChar : CharForm c form)
      (hRest : BodyForm s forms) : BodyForm (c :: s) (form ++ forms)

/-- The written forms of a string. -/
inductive StringForm (s : List Char) : List Char → Prop
  | mk {body : List Char} (h : BodyForm s body) : StringForm s ('"' :: (body ++ ['"']))

/-! Every written form is read. -/

theorem hexDigits?_append {digits : List Char} {n : Nat} (h : hexDigits? digits = some (n, []))
    (rest : List Char) : hexDigits? (digits ++ rest) = some (n, rest) := by
  unfold hexDigits? at h
  split at h
  · next a b c d more =>
      split at h
      · next ha hb hc hd =>
          obtain ⟨rfl, rfl⟩ := Prod.mk.inj (Option.some.inj h)
          simp only [List.cons_append, List.nil_append, hexDigits?, ha, hb, hc, hd]
      · cases h
  · cases h

theorem hexEscape_append {digits : List Char} {n : Nat} (h : hexDigits? digits = some (n, []))
    (rest : List Char) : hexEscape (digits ++ rest) = .ok (n, rest) := by
  rw [hexEscape, hexDigits?_append h rest]

theorem hexChar_code {digits : List Char} {n : Nat} (h : hexDigits? digits = some (n, []))
    (hAlone : n < 0xD800 ∨ 0xDFFF < n) (rest : List Char) :
    hexChar (digits ++ rest) = .ok (Char.ofNat n, rest) := by
  have hLow : ¬(0xDC00 ≤ n ∧ n ≤ 0xDFFF) := by omega
  have hHigh : n < 0xD800 ∨ 0xDBFF < n := by omega
  simp only [hexChar, hexEscape_append h rest, bind, Except.bind, if_neg hLow, if_pos hHigh]

theorem hexChar_pair {high low : List Char} {m n : Nat} (hHigh : hexDigits? high = some (m, []))
    (hLow : hexDigits? low = some (n, [])) (hFirst : 0xD800 ≤ m ∧ m ≤ 0xDBFF)
    (hSecond : 0xDC00 ≤ n ∧ n ≤ 0xDFFF) (rest : List Char) :
    hexChar (high ++ '\\' :: 'u' :: (low ++ rest)) =
      .ok (Char.ofNat ((m - 0xD800) * 0x400 + (n - 0xDC00) + 0x10000), rest) := by
  have hNotLow : ¬(0xDC00 ≤ m ∧ m ≤ 0xDFFF) := by omega
  have hNotAlone : ¬(m < 0xD800 ∨ 0xDBFF < m) := by omega
  have hPaired : ¬(n < 0xDC00 ∨ 0xDFFF < n) := by omega
  simp only [hexChar, hexEscape_append hHigh, hexEscape_append hLow, bind, Except.bind,
    if_neg hNotLow, if_neg hNotAlone, if_neg hPaired]

theorem stringChar_plain {c : Char} (hQuote : c ≠ '"') (hBackslash : c ≠ '\\')
    (hVisible : 0x20 ≤ c.toNat) (rest : List Char) :
    stringChar (c :: rest) = .ok (some c, rest) := by
  unfold stringChar
  split
  · next h => cases h
  · next h => exact absurd (List.cons.inj h).1 hQuote
  · next h => exact absurd (List.cons.inj h).1 hBackslash
  · next h => exact absurd (List.cons.inj h).1 hBackslash
  · next h => exact absurd (List.cons.inj h).1 hBackslash
  · next h =>
      cases h
      rw [if_neg (Nat.not_lt_of_le hVisible)]

theorem stringChar_letter {c e : Char} (h : simpleEscape? e = some c) (rest : List Char) :
    stringChar ('\\' :: e :: rest) = .ok (some c, rest) := by
  unfold simpleEscape? at h
  split at h <;> cases h <;> rfl

/-- One character is read back from each of its written forms. -/
theorem CharForm.stringChar {c : Char} {form : List Char} (h : CharForm c form)
    (rest : List Char) : stringChar (form ++ rest) = .ok (some c, rest) := by
  cases h with
  | plain hQuote hBackslash hVisible => exact stringChar_plain hQuote hBackslash hVisible rest
  | letter hLetter => exact stringChar_letter hLetter rest
  | code hCode hAlone =>
      simp only [List.cons_append, Json.stringChar, hexChar_code hCode hAlone, bind, Except.bind]
  | pair hHigh hLow hFirst hSecond =>
      simp only [List.cons_append, List.append_assoc, Json.stringChar,
        hexChar_pair hHigh hLow hFirst hSecond, bind, Except.bind]

theorem CharForm.length_pos {c : Char} {form : List Char} (h : CharForm c form) :
    0 < form.length := by
  cases h <;> exact Nat.succ_pos _

theorem BodyForm.length_le {s body : List Char} (h : BodyForm s body) :
    s.length ≤ body.length := by
  induction h with
  | nil => exact Nat.le_refl 0
  | cons hChar _ ih =>
      have hSome := hChar.length_pos
      rw [List.length_append, List.length_cons]
      omega

/-- Reading takes the characters of a string one after another. -/
theorem BodyForm.stringChars {s body : List Char} (h : BodyForm s body) {n : Nat}
    (hEnough : s.length < n) (rest : List Char) :
    stringChars n (body ++ '"' :: rest) = .ok (s, rest) := by
  induction h generalizing n with
  | nil =>
      obtain ⟨n, rfl⟩ := Nat.exists_eq_add_one_of_ne_zero (by omega : n ≠ 0)
      rfl
  | cons hChar _ ih =>
      obtain ⟨n, rfl⟩ := Nat.exists_eq_add_one_of_ne_zero (by omega : n ≠ 0)
      have hTail := ih (n := n) (by simpa using hEnough)
      rw [List.append_assoc]
      simp only [Json.stringChars, hChar.stringChar, hTail, bind, Except.bind]

/-- A string is an opening quote and what reads back to the string. -/
theorem StringForm.exists_body {s text : List Char} (h : StringForm s text) :
    ∃ body, text = '"' :: body ∧ ∀ rest, stringBody (body ++ rest) = .ok (s, rest) := by
  obtain @⟨body, hBody⟩ := h
  refine ⟨body ++ ['"'], rfl, fun rest => ?_⟩
  have hLength := hBody.length_le
  rw [List.append_assoc]
  refine hBody.stringChars ?_ rest
  rw [List.length_append]
  omega

/-! The form that strings are written in here. -/

theorem hexDigit?_digitChar : ∀ d < 16, hexDigit? (Nat.digitChar d) = some d := by decide

/-- A control character is read from its four hexadecimal digits. -/
theorem hexDigits?_control {n : Nat} (h : n < 0x20) :
    hexDigits? ['0', '0', Nat.digitChar (n / 16), Nat.digitChar (n % 16)] = some (n, []) := by
  have hHigh := hexDigit?_digitChar (n / 16) (by omega)
  have hLow := hexDigit?_digitChar (n % 16) (by omega)
  have hZero : hexDigit? '0' = some 0 := rfl
  have hCode : ((0 * 16 + 0) * 16 + n / 16) * 16 + n % 16 = n := by omega
  simp only [hexDigits?, hZero, hHigh, hLow, hCode]

theorem charForm_escapeChar (c : Char) : CharForm c (escapeChar c) := by
  unfold escapeChar
  split
  case h_8 hQuote hBackslash _ _ _ _ _ =>
    split
    · next hControl =>
        have hCode := CharForm.code (hexDigits?_control hControl) (.inl (by omega))
        rwa [Char.ofNat_toNat] at hCode
    · next hVisible => exact .plain hQuote hBackslash (Nat.le_of_not_lt hVisible)
  all_goals exact .letter rfl

theorem stringForm_stringText (s : List Char) : StringForm s (stringText s) := by
  have hBody : BodyForm s (s.flatMap escapeChar) := by
    induction s with
    | nil => exact .nil
    | cons c s ih => exact .cons (charForm_escapeChar c) ih
  exact .mk hBody

end EquityScreen.Json
