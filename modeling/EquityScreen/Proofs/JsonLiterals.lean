import EquityScreen.Json.Reader
import EquityScreen.Proofs.Digits
import EquityScreen.Proofs.Trimming

/-! Numbers as JSON writes them, in their parts: a sign, digits, perhaps a point with further
digits, and perhaps an exponent. A literal is read part by part, whatever follows it. -/
namespace EquityScreen.Json

open Decimal

/-- The text does not go on with the number before it. -/
def EndsNumber (rest : List Char) : Prop :=
  ∀ c ∈ rest.head?, c.isDigit = false ∧ c ≠ '.' ∧ c ≠ 'e' ∧ c ≠ 'E'

theorem EndsNumber.no_digit {rest : List Char} (h : EndsNumber rest) :
    rest.head?.any Char.isDigit = false := by
  cases rest with
  | nil => rfl
  | cons c rest => exact (h c rfl).1

theorem fractionPart_none {rest : List Char} (h : rest.head? ≠ some '.') :
    fractionPart rest = .ok (none, rest) := by
  unfold fractionPart
  split
  · exact absurd rfl h
  · rfl

theorem fractionPart_digits {digits : List Char} (hDigits : ∀ c ∈ digits, c.isDigit = true)
    (hSome : digits ≠ []) {rest : List Char} (hRest : rest.head?.any Char.isDigit = false) :
    fractionPart ('.' :: (digits ++ rest)) = .ok (some digits, rest) := by
  have hEmpty : digits.isEmpty = false := List.isEmpty_eq_false_iff.mpr hSome
  rw [fractionPart, spanDigits_append hDigits hRest]
  simp only [hEmpty, Bool.false_eq_true, if_false]

theorem exponentPart_none (isZero : Bool) {rest : List Char} (h : EndsNumber rest) :
    exponentPart isZero rest = .ok (none, rest) := by
  cases rest with
  | nil => rfl
  | cons c rest =>
      have hMark : ¬(c = 'e' ∨ c = 'E') := not_or.mpr (h c rfl).2.2
      rw [exponentPart, if_neg hMark]

/-- Further digits only make an exponent greater. -/
theorem le_ofDigitChars (digits : List Char) (n : Nat) : n ≤ Nat.ofDigitChars 10 digits n := by
  induction digits generalizing n with
  | nil => exact Nat.le_refl n
  | cons c digits ih =>
      rw [Nat.ofDigitChars_cons]
      exact Nat.le_trans (by omega) (ih _)

/-- An exponent up to the greatest one passes it at no digit. -/
theorem afterMaxExponent?_digits {digits : List Char} {n : Nat}
    (hMax : Nat.ofDigitChars 10 digits n ≤ maxExponent) {rest : List Char}
    (hRest : rest.head?.any Char.isDigit = false) :
    afterMaxExponent? n (digits ++ rest) = none := by
  induction digits generalizing n with
  | nil =>
      cases rest with
      | nil => rfl
      | cons c rest =>
          have hDigit : ¬c.isDigit = true := Bool.not_eq_true _ ▸ hRest
          exact if_neg hDigit
  | cons c digits ih =>
      rw [Nat.ofDigitChars_cons] at hMax
      have hNext := Nat.le_trans (le_ofDigitChars digits _) hMax
      rw [List.cons_append, afterMaxExponent?]
      split
      · rw [if_neg (Nat.not_lt_of_le hNext)]
        exact ih hMax
      · rfl

/-- An exponent past the greatest one passes it at one of its digits. -/
theorem exists_afterMaxExponent? {digits : List Char} (hDigits : ∀ c ∈ digits, c.isDigit = true)
    {n : Nat} (hBelow : n ≤ maxExponent) (hPast : maxExponent < Nat.ofDigitChars 10 digits n)
    (rest : List Char) : ∃ unread, afterMaxExponent? n (digits ++ rest) = some unread := by
  induction digits generalizing n with
  | nil => exact absurd hPast (Nat.not_lt_of_le hBelow)
  | cons c digits ih =>
      obtain ⟨hHere, hLater⟩ := List.forall_mem_cons.mp hDigits
      rw [Nat.ofDigitChars_cons] at hPast
      rw [List.cons_append, afterMaxExponent?, if_pos hHere]
      by_cases hNow : maxExponent < 10 * n + (c.toNat - '0'.toNat)
      · exact ⟨digits ++ rest, if_pos hNow⟩
      · obtain ⟨unread, hUnread⟩ := ih hLater (Nat.le_of_not_lt hNow) hPast
        exact ⟨unread, (if_neg hNow).trans hUnread⟩

/-- A digit in front is no sign. -/
theorem splitSign_of_head {c : Char} (h : c.isDigit = true) (rest : List Char) :
    splitSign (c :: rest) = (false, c :: rest) := by
  have hNoSign : c ≠ '-' ∧ c ≠ '+' := by
    constructor <;>
    · rintro rfl
      exact absurd h (by decide)
  unfold splitSign
  split
  · next h => exact absurd (List.cons.inj h).1 hNoSign.1
  · next h => exact absurd (List.cons.inj h).1 hNoSign.2
  · rfl

/-- The sign of an exponent. -/
inductive ExponentSign where
  | unsigned
  | plus
  | minus
deriving DecidableEq

def ExponentSign.text : ExponentSign → List Char
  | unsigned => []
  | plus => ['+']
  | minus => ['-']

/-- The written form of an exponent. -/
structure Exponent where
  capital : Bool
  sign : ExponentSign
  digits : List Char
  digits_ne_nil : digits ≠ []
  isDigit_digits : ∀ c ∈ digits, c.isDigit = true

namespace Exponent

def text (e : Exponent) : List Char :=
  (if e.capital then 'E' else 'e') :: (e.sign.text ++ e.digits)

def value (e : Exponent) : Int :=
  if e.sign = .minus then -(digitsValue e.digits : Int) else digitsValue e.digits

/-- The exponent is not past the greatest one. A negative one may be of any size. -/
def InRange (e : Exponent) : Prop := e.sign ≠ .minus → digitsValue e.digits ≤ maxExponent

theorem isMark (e : Exponent) :
    (if e.capital then 'E' else 'e') = 'e' ∨ (if e.capital then 'E' else 'e') = 'E' := by
  cases e.capital
  · exact .inl rfl
  · exact .inr rfl

theorem splitSign_text (e : Exponent) (rest : List Char) :
    splitSign (e.sign.text ++ (e.digits ++ rest)) =
      (decide (e.sign = .minus), e.digits ++ rest) := by
  obtain ⟨capital, sign, digits, hSome, hDigits⟩ := e
  obtain ⟨c, digits, rfl⟩ := List.exists_cons_of_ne_nil hSome
  have hDigit := hDigits c List.mem_cons_self
  cases sign with
  | unsigned => exact splitSign_of_head hDigit _
  | plus => rfl
  | minus => rfl

end Exponent

/-- An exponent is read, however great it is if the number is zero. -/
theorem exponentPart_text {e : Exponent} {isZero : Bool} (hRange : isZero = true ∨ e.InRange)
    {rest : List Char} (hRest : rest.head?.any Char.isDigit = false) :
    exponentPart isZero (e.text ++ rest) = .ok (some e.value, rest) := by
  have hEmpty : e.digits.isEmpty = false := List.isEmpty_eq_false_iff.mpr e.digits_ne_nil
  rw [Exponent.text, List.cons_append, List.append_assoc, exponentPart, if_pos e.isMark,
    e.splitSign_text]
  simp only [spanDigits_append e.isDigit_digits hRest, hEmpty, Bool.false_eq_true, if_false,
    decide_eq_true_eq]
  by_cases hMinus : e.sign = .minus
  · simp only [Exponent.value, if_pos hMinus]
    split <;> rfl
  · simp only [Exponent.value, if_neg hMinus]
    rcases hRange with rfl | hRange
    · split <;> rfl
    · rw [afterMaxExponent?_digits (hRange hMinus) hRest]

/-- An exponent that is too great is refused, unless the number is zero. -/
theorem exponentPart_past {e : Exponent} (hPast : ¬e.InRange) {rest : List Char}
    (hRest : rest.head?.any Char.isDigit = false) :
    ∃ error, exponentPart false (e.text ++ rest) = .error error := by
  obtain ⟨hPlus, hGreat⟩ := Classical.not_imp.mp hPast
  have hEmpty : e.digits.isEmpty = false := List.isEmpty_eq_false_iff.mpr e.digits_ne_nil
  obtain ⟨unread, hUnread⟩ := exists_afterMaxExponent? e.isDigit_digits (Nat.zero_le _)
    (Nat.lt_of_not_le hGreat) rest
  rw [Exponent.text, List.cons_append, List.append_assoc, exponentPart, if_pos e.isMark,
    e.splitSign_text]
  simp only [spanDigits_append e.isDigit_digits hRest, hEmpty, Bool.false_eq_true, if_false,
    decide_eq_true_eq, hUnread, if_neg hPlus]
  exact ⟨_, rfl⟩

theorem wholePart_digits {digits : List Char} (hDigits : ∀ c ∈ digits, c.isDigit = true)
    (hSome : digits ≠ []) (hLead : digits.head? ≠ some '0' ∨ digits = ['0']) {rest : List Char}
    (hRest : rest.head?.any Char.isDigit = false) :
    wholePart (digits ++ rest) = .ok (digits, rest) := by
  rcases hLead with hLead | rfl
  · obtain ⟨c, digits, rfl⟩ := List.exists_cons_of_ne_nil hSome
    have hZero : c ≠ '0' := fun h => hLead (congrArg some h)
    have hDigit := hDigits c List.mem_cons_self
    have hSpan := spanDigits_append hDigits hRest
    rw [List.cons_append] at hSpan ⊢
    unfold wholePart
    split
    · next h => cases h
    · next h => exact absurd (List.cons.inj h).1 hZero
    · next h =>
        cases h
        rw [if_pos hDigit, hSpan]
  · change (if rest.head?.any Char.isDigit then _ else _) = _
    rw [hRest]
    rfl

/-- Only the whole part can fail on what a number starts with. -/
theorem head_of_wholePart {text : List Char} {r : List Char × List Char}
    (h : wholePart text = .ok r) : ∃ c rest, text = c :: rest ∧ c.isDigit = true := by
  unfold wholePart at h
  split at h
  · cases h
  · next rest => exact ⟨'0', rest, rfl, rfl⟩
  · next c rest _ =>
      split at h
      · next hDigit => exact ⟨c, rest, rfl, hDigit⟩
      · cases h

/-- A number starts with a minus sign or a digit. -/
theorem head_of_number {text : List Char} {r : Number × List Char} (h : number text = .ok r) :
    ∃ c rest, text = c :: rest ∧ (c = '-' ∨ c.isDigit = true) := by
  unfold number at h
  split at h
  next hSign =>
    split at hSign
    · next rest => exact ⟨'-', rest, rfl, .inl rfl⟩
    · obtain ⟨rfl, rfl⟩ := Prod.mk.inj hSign
      cases hWhole : wholePart text with
      | error e =>
          rw [hWhole] at h
          cases h
      | ok whole =>
          obtain ⟨c, rest, hText, hDigit⟩ := head_of_wholePart hWhole
          exact ⟨c, rest, hText, .inr hDigit⟩

def signOf (negative : Bool) : List Char := if negative then ['-'] else []

/-- What is before the exponent of a number is read first. -/
theorem number_of_whole {text afterWhole afterFraction whole : List Char}
    {fraction : Option (List Char)}
    (hWhole : wholePart text = .ok (whole, afterWhole))
    (hFraction : fractionPart afterWhole = .ok (fraction, afterFraction)) (negative : Bool) :
    number (signOf negative ++ text) =
      exponentPart (digitsValue (whole ++ fraction.getD []) == 0) afterFraction >>=
        fun (exponent, rest) => numberOfParts negative whole fraction exponent rest := by
  obtain ⟨c, tail, rfl, hDigit⟩ := head_of_wholePart hWhole
  have hMinus : c ≠ '-' := by
    rintro rfl
    exact absurd hDigit (by decide)
  cases negative with
  | true =>
      simp only [number, signOf, if_true, List.cons_append, List.nil_append, hWhole, hFraction,
        bind, Except.bind]
  | false =>
      unfold number
      dsimp only [signOf, List.nil_append]
      split
      · next h => exact absurd (List.cons.inj h).1 hMinus
      · simp only [Bool.false_eq_true, if_false, List.nil_append, hWhole, hFraction, bind,
          Except.bind]

/-- The written form of a number. -/
structure Literal where
  negative : Bool
  whole : List Char
  fraction : Option (List Char)
  exponent : Option Exponent
  whole_ne_nil : whole ≠ []
  isDigit_whole : ∀ c ∈ whole, c.isDigit = true
  lead_whole : whole.head? ≠ some '0' ∨ whole = ['0']
  fraction_ne_nil : ∀ digits ∈ fraction, digits ≠ []
  isDigit_fraction : ∀ digits ∈ fraction, ∀ c ∈ digits, c.isDigit = true

namespace Literal

def fractionText (l : Literal) : List Char := l.fraction.elim [] ('.' :: ·)

def exponentText (l : Literal) : List Char := l.exponent.elim [] Exponent.text

def text (l : Literal) : List Char :=
  signOf l.negative ++ (l.whole ++ (l.fractionText ++ l.exponentText))

/-- The decimal that a literal stands for, without its sign. -/
def decimal (l : Literal) : Decimal :=
  ofDigits l.whole (l.fraction.getD []) (l.exponent.elim 0 Exponent.value)

/-- The double nearest to a literal. -/
def value (l : Literal) : Binary64 := l.decimal.toBinary64 l.negative

/-- The reader keeps exponents in 32 bits. It reads a literal with a greater exponent only if
the number is zero, and one with any exponent below zero. -/
def InRange (l : Literal) : Prop := l.decimal.digits = 0 ∨ ∀ e ∈ l.exponent, e.InRange

variable (l : Literal)

theorem fractionPart_text {rest : List Char} (hRest : rest.head?.any Char.isDigit = false)
    (hPoint : rest.head? ≠ some '.') :
    fractionPart (l.fractionText ++ rest) = .ok (l.fraction, rest) := by
  unfold fractionText
  cases hFraction : l.fraction with
  | none => exact fractionPart_none hPoint
  | some digits =>
      exact fractionPart_digits (l.isDigit_fraction digits hFraction)
        (l.fraction_ne_nil digits hFraction) hRest

theorem exponentPart_exponentText (hRange : l.InRange) {rest : List Char}
    (hRest : EndsNumber rest) :
    exponentPart (l.decimal.digits == 0) (l.exponentText ++ rest) =
      .ok (l.exponent.map Exponent.value, rest) := by
  unfold exponentText
  cases hExponent : l.exponent with
  | none => exact exponentPart_none _ hRest
  | some e =>
      refine exponentPart_text ?_ hRest.no_digit
      rcases hRange with hZero | hRange
      · exact .inl (beq_iff_eq.mpr hZero)
      · exact .inr (hRange e hExponent)

/-- Neither a digit nor a point starts an exponent, or what follows a number. -/
theorem head_exponentText {rest : List Char} (hRest : EndsNumber rest) :
    (l.exponentText ++ rest).head?.any Char.isDigit = false ∧
      (l.exponentText ++ rest).head? ≠ some '.' := by
  unfold exponentText
  cases l.exponent with
  | none =>
      refine ⟨hRest.no_digit, fun hPoint => ?_⟩
      exact (hRest '.' hPoint).2.1 rfl
  | some e => cases hCapital : e.capital <;> simp [Exponent.text, hCapital]

theorem head_fractionText {rest : List Char} (hRest : EndsNumber rest) :
    (l.fractionText ++ (l.exponentText ++ rest)).head?.any Char.isDigit = false := by
  unfold fractionText
  cases l.fraction with
  | none => exact (l.head_exponentText hRest).1
  | some digits => rfl

/-- A whole number is the decimal of its digits. -/
theorem ofInt_of_wholeNumber? {negative : Bool} {digits : List Char} {n : Int}
    (h : wholeNumber? negative digits = some n) :
    Binary64.ofInt n = toBinary64 negative ⟨digitsValue digits, 0⟩ := by
  unfold wholeNumber? at h
  dsimp only at h
  rw [Binary64.ofInt]
  split at h
  · next hNegative =>
      obtain ⟨hBounds, hValue⟩ := Option.ite_none_right_eq_some.mp h
      cases hValue
      have hSign : decide (-(digitsValue digits : Int) < 0) = true := decide_eq_true (by omega)
      rw [hSign, hNegative, Int.natAbs_neg, Int.natAbs_natCast]
  · next hPositive =>
      obtain ⟨-, hValue⟩ := Option.ite_none_right_eq_some.mp h
      cases hValue
      have hSign : decide ((digitsValue digits : Int) < 0) = false := decide_eq_false (by omega)
      rw [hSign, Bool.eq_false_iff.mpr hPositive, Int.natAbs_natCast]

/-- What is read is the double nearest to the literal, as a whole number where it is one of 64
bits. -/
theorem toBinary64_of_numberOfParts {n : Number} {cs rest : List Char}
    (h : numberOfParts l.negative l.whole l.fraction (l.exponent.map Exponent.value) cs =
      .ok (n, rest)) : n.toBinary64 = l.value := by
  have hExponent : (l.exponent.map Exponent.value).getD 0 = l.exponent.elim 0 Exponent.value := by
    cases l.exponent <;> rfl
  unfold numberOfParts at h
  split at h
  · next n hFraction hNone hWhole =>
      cases h
      rw [Number.toBinary64, ofInt_of_wholeNumber? hWhole, value, decimal, hFraction,
        Option.map_eq_none_iff.mp hNone, ofDigits]
      simp
  · dsimp only at h
    split at h
    · cases h
      rw [hExponent]
      rfl
    · cases h

theorem exists_numberOfParts (hFinite : l.value.isFinite = true) (rest : List Char) :
    ∃ n, numberOfParts l.negative l.whole l.fraction (l.exponent.map Exponent.value) rest =
      .ok (n, rest) := by
  have hExponent : (l.exponent.map Exponent.value).getD 0 = l.exponent.elim 0 Exponent.value := by
    cases l.exponent <;> rfl
  unfold numberOfParts
  split
  · exact ⟨_, rfl⟩
  · refine ⟨.real l.value, ?_⟩
    rw [hExponent]
    exact if_pos hFinite

/-- The parts in front of the exponent are read off a literal. -/
theorem number_text_append {rest : List Char} (hRest : EndsNumber rest) :
    number (l.text ++ rest) =
      exponentPart (l.decimal.digits == 0) (l.exponentText ++ rest) >>= fun (exponent, rest) =>
        numberOfParts l.negative l.whole l.fraction exponent rest := by
  obtain ⟨hDigit, hPoint⟩ := l.head_exponentText hRest
  rw [text, List.append_assoc, List.append_assoc, List.append_assoc]
  exact number_of_whole
    (wholePart_digits l.isDigit_whole l.whole_ne_nil l.lead_whole (l.head_fractionText hRest))
    (l.fractionPart_text hDigit hPoint) l.negative

/-- A literal of a finite double is read as that double. -/
theorem number_text (hRange : l.InRange) (hFinite : l.value.isFinite = true) {rest : List Char}
    (hRest : EndsNumber rest) :
    ∃ n, number (l.text ++ rest) = .ok (n, rest) ∧ n.toBinary64 = l.value := by
  obtain ⟨n, hParts⟩ := l.exists_numberOfParts hFinite rest
  refine ⟨n, ?_, l.toBinary64_of_numberOfParts hParts⟩
  rw [l.number_text_append hRest, l.exponentPart_exponentText hRange hRest]
  exact hParts

/-- The literal is not written as a whole number. -/
def IsReal : Prop := l.fraction ≠ none ∨ l.exponent ≠ none

/-- A literal with a point or an exponent is never read as a whole number. -/
theorem number_real (hReal : l.IsReal) (hRange : l.InRange) (hFinite : l.value.isFinite = true)
    {rest : List Char} (hRest : EndsNumber rest) :
    number (l.text ++ rest) = .ok (.real l.value, rest) := by
  have hExponent : (l.exponent.map Exponent.value).getD 0 = l.exponent.elim 0 Exponent.value := by
    cases l.exponent <;> rfl
  rw [l.number_text_append hRest, l.exponentPart_exponentText hRange hRest]
  change numberOfParts _ _ _ _ _ = _
  unfold numberOfParts
  split
  · next hFraction hNone _ =>
      rcases hReal with hReal | hReal
      · exact absurd hFraction hReal
      · exact absurd (Option.map_eq_none_iff.mp hNone) hReal
  · rw [hExponent]
    exact if_pos hFinite

/-! A literal is also a numeral as data cells have it. -/

theorem exponentPart?_text (e : Exponent) : exponentPart? e.text = some e.value := by
  have hEmpty : e.digits.isEmpty = false := List.isEmpty_eq_false_iff.mpr e.digits_ne_nil
  have hSign := e.splitSign_text []
  rw [List.append_nil] at hSign
  rw [Exponent.text, exponentPart?, if_pos e.isMark, hSign]
  simp [spanDigits_digits e.isDigit_digits, hEmpty, Exponent.value]

theorem exponentPart?_exponentText :
    exponentPart? l.exponentText = some (l.exponent.elim 0 Exponent.value) := by
  unfold exponentText
  cases l.exponent with
  | none => rfl
  | some e => exact exponentPart?_text e

theorem endsNumber_nil : EndsNumber [] := fun _ hc => by cases hc

theorem spanDecimal_text :
    spanDecimal (l.whole ++ (l.fractionText ++ l.exponentText)) =
      (l.whole, l.fraction.getD [], l.exponentText) := by
  have hFraction := l.head_fractionText endsNumber_nil
  obtain ⟨hDigit, hPoint⟩ := l.head_exponentText endsNumber_nil
  rw [List.append_nil] at hFraction hDigit hPoint
  rw [spanDecimal, spanDigits_append l.isDigit_whole hFraction]
  unfold fractionText
  cases hParts : l.fraction with
  | none =>
      dsimp only [Option.elim_none, List.nil_append]
      split
      · next h => exact absurd (congrArg List.head? h) hPoint
      · rfl
  | some digits =>
      simp only [Option.elim_some, List.cons_append,
        spanDigits_append (l.isDigit_fraction digits hParts) hDigit, Option.getD_some]

/-- A cell with a literal in it has the double nearest to the literal. -/
theorem ofNumeral?_text : Binary64.ofNumeral? l.text = some l.value := by
  have hSign : splitSign l.text =
      (l.negative, l.whole ++ (l.fractionText ++ l.exponentText)) := by
    unfold text
    cases l.negative with
    | true => rfl
    | false =>
        obtain ⟨c, more, hWhole⟩ := List.exists_cons_of_ne_nil l.whole_ne_nil
        have hDigit := l.isDigit_whole c (hWhole ▸ List.mem_cons_self)
        rw [hWhole]
        exact splitSign_of_head hDigit _
  have hDecimal : Decimal.ofNumeral? (l.whole ++ (l.fractionText ++ l.exponentText)) =
      some l.decimal := by
    have hSome : l.whole.isEmpty = false := List.isEmpty_eq_false_iff.mpr l.whole_ne_nil
    simp [Decimal.ofNumeral?, l.spanDecimal_text, hSome, l.exponentPart?_exponentText, decimal]
  simp only [Binary64.ofNumeral?, hSign, hDecimal, value]

theorem trim_text : Text.trim l.text = l.text := by
  have hMarks : Text.isBlank '-' = false ∧ Text.isBlank '+' = false := ⟨rfl, rfl⟩
  have hDigits {ds : List Char} (h : ∀ c ∈ ds, c.isDigit = true) :
      ∀ c ∈ ds, Text.isBlank c = false := fun c hc => EquityScreen.isBlank_of_isDigit (h c hc)
  have hFraction : ∀ c ∈ l.fractionText, Text.isBlank c = false := by
    unfold fractionText
    cases h : l.fraction with
    | none => exact fun _ hc => absurd hc List.not_mem_nil
    | some ds => exact List.forall_mem_cons.mpr ⟨by decide, hDigits (l.isDigit_fraction ds h)⟩
  have hExponent : ∀ c ∈ l.exponentText, Text.isBlank c = false := by
    unfold exponentText
    cases l.exponent with
    | none => exact fun _ hc => absurd hc List.not_mem_nil
    | some e =>
        have hSign : ∀ c ∈ e.sign.text, Text.isBlank c = false := by
          cases e.sign <;> simp [ExponentSign.text, hMarks]
        refine List.forall_mem_cons.mpr ⟨?_, List.forall_mem_append.mpr ⟨hSign, ?_⟩⟩
        · cases e.capital <;> decide
        · exact hDigits e.isDigit_digits
  have hSign : ∀ c ∈ signOf l.negative, Text.isBlank c = false := by
    cases l.negative <;> simp [signOf, hMarks]
  refine Text.trim_of_no_blank ?_
  simp only [text, List.forall_mem_append]
  exact ⟨hSign, hDigits l.isDigit_whole, hFraction, hExponent⟩

end Literal

end EquityScreen.Json
