import EquityScreen.Proofs.JsonLiterals
import EquityScreen.Proofs.NearestDouble

/-! A finite double is written as a literal that has a point or an exponent, so that it is never
taken for a whole number. Its digits, however they are spread around the point, lie in the interval
of the double, which is therefore the double that is read back, whatever follows in the text. -/
namespace EquityScreen.Json

open Decimal

/-- Under either sign the text is a literal for the decimal, and not a whole number. -/
def ReadsAs (text : List Char) (d : Decimal) : Prop :=
  ∀ negative : Bool, ∃ l : Literal, l.text = signOf negative ++ text ∧
    l.value = d.toBinary64 negative ∧ l.InRange ∧ l.IsReal

section Forms

variable {whole : List Char} (hWhole : ∀ c ∈ whole, c.isDigit = true) (hSome : whole ≠ [])
  (hLead : whole.head? ≠ some '0' ∨ whole = ['0'])
include hWhole hSome hLead

/-- A number with a point and no exponent. -/
theorem readsAs_fraction {fraction : List Char} (hFraction : ∀ c ∈ fraction, c.isDigit = true)
    (hFractionSome : fraction ≠ []) :
    ReadsAs (whole ++ '.' :: fraction) (ofDigits whole fraction 0) := by
  intro negative
  refine ⟨⟨negative, whole, some fraction, none, hSome, hWhole, hLead, ?_, ?_⟩, ?_, rfl,
    .inr fun _ hNone => (Option.some_ne_none _ hNone.symm).elim, .inl (Option.some_ne_none _)⟩
  · rintro digits ⟨⟩
    exact hFractionSome
  · rintro digits ⟨⟩
    exact hFraction
  · simp [Literal.text, Literal.fractionText, Literal.exponentText]

/-- A number with an exponent. -/
theorem readsAs_exponent {fraction : Option (List Char)}
    (hFraction : ∀ ds ∈ fraction, (∀ c ∈ ds, c.isDigit = true) ∧ ds ≠ []) {e : Exponent}
    (hRange : e.InRange) :
    ReadsAs (whole ++ (fraction.elim [] ('.' :: ·) ++ e.text))
      (ofDigits whole (fraction.getD []) e.value) := by
  intro negative
  refine ⟨⟨negative, whole, fraction, some e, hSome, hWhole, hLead,
    fun ds h => (hFraction ds h).2, fun ds h => (hFraction ds h).1⟩, rfl, rfl, .inr ?_,
    .inr (Option.some_ne_none _)⟩
  rintro _ ⟨⟩
  exact hRange

end Forms

/-! The digits of a decimal as they are spread around the point. In every form the number
read has the value of the decimal, perhaps with zeros added to the digits. -/

theorem isDigit_zeros (k : Nat) : ∀ c ∈ List.replicate k '0', c.isDigit = true := fun c hc => by
  rw [List.eq_of_mem_replicate hc]
  rfl

theorem digitText_lead {n : Nat} (h : 0 < n) (rest : List Char) :
    (digitText n ++ rest).head? ≠ some '0' := by
  rw [List.head?_append_of_ne_nil _ (digitText_ne_nil n)]
  exact head_digitText h

theorem readsAs_small (n zeros : Nat) :
    ReadsAs ('0' :: '.' :: (List.replicate zeros '0' ++ digitText n))
      ⟨n, -((zeros + (digitText n).length : Nat) : Int)⟩ := by
  have hZero : ∀ c ∈ ['0'], c.isDigit = true := List.all_eq_true.mp rfl
  have hFraction : ∀ c ∈ List.replicate zeros '0' ++ digitText n, c.isDigit = true :=
    List.forall_mem_append.mpr ⟨isDigit_zeros zeros, isDigit_digitText n⟩
  have hSome := List.append_ne_nil_of_right_ne_nil (List.replicate zeros '0') (digitText_ne_nil n)
  have hReads := readsAs_fraction hZero (by decide) (.inr rfl) hFraction hSome
  have hValue : digitsValue (['0'] ++ (List.replicate zeros '0' ++ digitText n)) = n :=
    (digitsValue_zeros_append (zeros + 1) (digitText n)).trans (digitsValue_digitText n)
  rwa [ofDigits, hValue, List.length_append, List.length_replicate, Int.zero_sub] at hReads

theorem readsAs_whole (n zeros : Nat) (hLead : 0 < n ∨ zeros = 0) :
    ReadsAs (digitText n ++ List.replicate zeros '0' ++ ['.', '0']) ⟨n * 10 ^ (zeros + 1), -1⟩ := by
  have hWhole : ∀ c ∈ digitText n ++ List.replicate zeros '0', c.isDigit = true :=
    List.forall_mem_append.mpr ⟨isDigit_digitText n, isDigit_zeros zeros⟩
  have hSome := List.append_ne_nil_of_left_ne_nil (digitText_ne_nil n) (List.replicate zeros '0')
  have hFirst : (digitText n ++ List.replicate zeros '0').head? ≠ some '0' ∨
      digitText n ++ List.replicate zeros '0' = ['0'] := by
    rcases Nat.eq_zero_or_pos n with rfl | hPositive
    · rcases hLead with hLead | rfl
      · exact absurd hLead (Nat.lt_irrefl 0)
      · exact .inr rfl
    · exact .inl (digitText_lead hPositive _)
  have hFraction : ∀ c ∈ ['0'], c.isDigit = true := List.all_eq_true.mp rfl
  have hReads := readsAs_fraction hWhole hSome hFirst hFraction (by decide)
  have hValue : digitsValue (digitText n ++ List.replicate zeros '0' ++ ['0']) =
      n * 10 ^ (zeros + 1) := by
    have hZeros := digitsValue_append_zeros (zeros + 1) (digitText n)
    rw [digitsValue_digitText, List.replicate_succ', ← List.append_assoc] at hZeros
    exact hZeros
  rwa [ofDigits, hValue] at hReads

theorem readsAs_split (n position : Nat) (hFirst : 0 < position)
    (hLast : position < (digitText n).length) :
    ReadsAs ((digitText n).take position ++ '.' :: (digitText n).drop position)
      ⟨n, -(((digitText n).length - position : Nat) : Int)⟩ := by
  have hPositive : 0 < n := by
    rcases Nat.eq_zero_or_pos n with rfl | hPositive
    · have hOne : (digitText 0).length = 1 := rfl
      omega
    · exact hPositive
  have hWhole : ∀ c ∈ (digitText n).take position, c.isDigit = true := fun c hc =>
    isDigit_digitText n c (List.mem_of_mem_take hc)
  have hFraction : ∀ c ∈ (digitText n).drop position, c.isDigit = true := fun c hc =>
    isDigit_digitText n c (List.mem_of_mem_drop hc)
  have hSome : (digitText n).take position ≠ [] := by
    rw [← List.length_pos_iff_ne_nil, List.length_take]
    omega
  have hFractionSome : (digitText n).drop position ≠ [] := by
    rw [← List.length_pos_iff_ne_nil, List.length_drop]
    omega
  have hLead : ((digitText n).take position).head? ≠ some '0' := by
    rw [List.head?_take, if_neg (by omega)]
    exact head_digitText hPositive
  have hReads := readsAs_fraction hWhole hSome (.inl hLead) hFraction hFractionSome
  rwa [ofDigits, List.take_append_drop, digitsValue_digitText, List.length_drop,
    Int.zero_sub] at hReads

theorem readsAs_positional {d : Decimal} (hZero : 0 < d.digits ∨ d.exponent = 0) :
    ∃ k, ReadsAs (d.positional ['.', '0']) (d.withZeros k) := by
  obtain ⟨n, e⟩ := d
  unfold positional
  dsimp only at hZero ⊢
  split
  · next hSmall =>
      have hReads := readsAs_small n (-((digitText n).length + e)).toNat
      have hExponent : -(((-((digitText n).length + e)).toNat + (digitText n).length : Nat) : Int) =
          e := by omega
      refine ⟨0, ?_⟩
      rwa [hExponent, ← withZeros_zero ⟨n, e⟩] at hReads
  · split
    · next hNatural =>
        have hReads := readsAs_whole n e.toNat (by omega)
        have hExponent : (-1 : Int) = e - ((e.toNat + 1 : Nat) : Int) := by omega
        refine ⟨e.toNat + 1, ?_⟩
        rwa [hExponent] at hReads
    · next hPoint hFraction =>
        have hReads := readsAs_split n ((digitText n).length + e).toNat (by omega) (by omega)
        have hExponent : -(((digitText n).length - ((digitText n).length + e).toNat : Nat) : Int) =
            e := by omega
        refine ⟨0, ?_⟩
        rwa [hExponent, ← withZeros_zero ⟨n, e⟩] at hReads

theorem readsAs_scientific {d : Decimal} (hPositive : 0 < d.digits)
    (hMax : (digitText d.digits).length + d.exponent - 1 ≤ maxExponent) :
    ReadsAs d.scientific d := by
  obtain ⟨n, e⟩ := d
  dsimp only at hPositive hMax
  have hSome := digitText_ne_nil n
  have hLength := List.length_pos_iff_ne_nil.mpr hSome
  have hWhole : ∀ c ∈ (digitText n).take 1, c.isDigit = true := fun c hc =>
    isDigit_digitText n c (List.mem_of_mem_take hc)
  have hWholeSome : (digitText n).take 1 ≠ [] := by
    rw [← List.length_pos_iff_ne_nil, List.length_take]
    omega
  have hLead : ((digitText n).take 1).head? ≠ some '0' := by
    rw [List.head?_take, if_neg (by decide)]
    exact head_digitText hPositive
  generalize hTop : (digitText n).length + e - 1 = top at hMax
  have hSign : (if top < 0 then ExponentSign.minus else .plus) = .minus ↔ top < 0 := by
    split <;> simp_all
  let power : Exponent :=
    ⟨false, if top < 0 then .minus else .plus, digitText top.natAbs, digitText_ne_nil _,
      isDigit_digitText _⟩
  have hRange : power.InRange := fun hPlus => by
    have hAbove : ¬top < 0 := fun hBelow => hPlus (hSign.mpr hBelow)
    rw [digitsValue_digitText]
    omega
  have hValue : power.value = top := by
    simp only [Exponent.value, power, hSign, digitsValue_digitText]
    split <;> omega
  have hText : power.text = 'e' :: (if top < 0 then '-' else '+') :: digitText top.natAbs := by
    simp only [Exponent.text, power, Bool.false_eq_true, if_false]
    split <;> rfl
  unfold scientific
  dsimp only
  rw [hTop, List.append_assoc]
  split
  · next hOne =>
      have hFraction : ∀ ds ∈ (none : Option (List Char)),
          (∀ c ∈ ds, c.isDigit = true) ∧ ds ≠ [] := fun _ h => absurd h (by simp)
      have hReads := readsAs_exponent hWhole hWholeSome (.inl hLead) hFraction hRange
      have hDecimal : ofDigits ((digitText n).take 1) [] top = ⟨n, e⟩ := by
        rw [ofDigits, List.append_nil, List.take_of_length_le hOne, digitsValue_digitText]
        simp only [List.length_nil, Decimal.mk.injEq, true_and]
        omega
      rw [hValue, hText, Option.getD_none, hDecimal] at hReads
      simpa only [Option.elim_none] using hReads
  · next hMore =>
      have hFraction : ∀ ds ∈ some ((digitText n).drop 1),
          (∀ c ∈ ds, c.isDigit = true) ∧ ds ≠ [] := by
        rintro ds ⟨⟩
        refine ⟨fun c hc => isDigit_digitText n c (List.mem_of_mem_drop hc), ?_⟩
        rw [← List.length_pos_iff_ne_nil, List.length_drop]
        omega
      have hReads := readsAs_exponent hWhole hWholeSome (.inl hLead) hFraction hRange
      have hDecimal : ofDigits ((digitText n).take 1) ((digitText n).drop 1) top = ⟨n, e⟩ := by
        rw [ofDigits, List.take_append_drop, digitsValue_digitText, List.length_drop]
        simp only [Decimal.mk.injEq, true_and]
        omega
      rw [hValue, hText, Option.getD_some, hDecimal] at hReads
      simpa only [Option.elim_some] using hReads

theorem readsAs_json {d : Decimal} (hZero : 0 < d.digits ∨ d.exponent = 0)
    (hMax : (digitText d.digits).length + d.exponent - 1 ≤ maxExponent) :
    ∃ k, ReadsAs d.json (d.withZeros k) := by
  unfold json
  dsimp only
  split
  · exact readsAs_positional hZero
  · next hFar =>
      have hPositive : 0 < d.digits := by
        rcases Nat.eq_zero_or_pos d.digits with hNone | hPositive
        · have hLength : (digitText d.digits).length = 1 := by
            rw [hNone]
            rfl
          omega
        · exact hPositive
      refine ⟨0, ?_⟩
      rw [withZeros_zero]
      exact readsAs_scientific hPositive hMax

theorem pow_le_digits {n : Nat} (h : 0 < n) : 10 ^ ((digitText n).length - 1) ≤ n := by
  rcases Nat.eq_zero_or_pos ((digitText n).length - 1) with hOne | hMore
  · rw [hOne]
    exact h
  · have hLength : (digitText n).length ≤ (digitText n).length - 1 ↔
        n < 10 ^ ((digitText n).length - 1) := Nat.length_toDigits_le_iff (by decide) hMore
    omega

/-- Finite doubles have few digits before the point. -/
theorem length_le_of_roundsTo {d : Decimal} {m : Nat} (h : d.RoundsTo m)
    (hFinite : m < Binary64.infiniteMagnitude) (hPositive : 0 < d.digits) :
    (digitText d.digits).length + d.exponent ≤ 1025 := by
  have hBounded := h.bounded hFinite
  have hDigits := Nat.mul_le_mul_right (10 ^ d.exponent.toNat) (pow_le_digits hPositive)
  rw [← Nat.pow_add] at hDigits
  by_contra hLarge
  generalize hLimit : 1024 = limit at hBounded
  have hPower : 10 ^ (limit + (-d.exponent).toNat) ≤
      10 ^ ((digitText d.digits).length - 1 + d.exponent.toNat) :=
    Nat.pow_le_pow_right (by decide) (by omega)
  have hBase : 2 ^ limit * 10 ^ (-d.exponent).toNat ≤ 10 ^ limit * 10 ^ (-d.exponent).toNat :=
    Nat.mul_le_mul_right _ (Nat.pow_le_pow_left (by decide) limit)
  rw [Nat.pow_add] at hPower
  omega

/-- Only zero has no digits but a zero. -/
theorem shortest_digits (tie : Tie) (m : Nat) :
    shortest tie m = ⟨0, 0⟩ ∨ 0 < (shortest tie m).digits := by
  rcases Nat.eq_zero_or_pos m with rfl | hPositive
  · exact .inl rfl
  · refine .inr (Nat.pos_of_ne_zero fun hNone => ?_)
    have hZero := (roundsTo_shortest tie m).eq_zero (small_of_log2 (.inl hNone))
    omega

theorem exists_readsAs_shortest (tie : Tie) {m : Nat} (hFinite : m < Binary64.infiniteMagnitude) :
    ∃ k, ReadsAs (shortest tie m).json ((shortest tie m).withZeros k) := by
  rcases shortest_digits tie m with hZero | hPositive
  · rw [hZero]
    exact readsAs_json (.inr rfl) (by decide)
  · have hLength := length_le_of_roundsTo (roundsTo_shortest tie m) hFinite hPositive
    have hLimit : (1024 : Int) ≤ maxExponent := by decide
    exact readsAs_json (.inl hPositive) (by omega)

/-- A finite double is written as a literal for it. -/
theorem exists_literal {x : Binary64} (hFinite : x.isFinite = true) :
    ∃ l : Literal, l.text = x.jsonText ∧ l.value = x ∧ l.InRange ∧ l.IsReal := by
  obtain ⟨negative, m⟩ := x
  have hBelow : m.val < Binary64.infiniteMagnitude := of_decide_eq_true hFinite
  have hRounds := roundsTo_shortest .toEven m
  obtain ⟨k, hReads⟩ := exists_readsAs_shortest .toEven hBelow
  have hMagnitude := toMagnitude_of_roundsTo ((roundsTo_withZeros _ k m).mpr hRounds) hBelow
  have hValue : (withZeros (shortest .toEven m) k).toBinary64 negative = ⟨negative, m⟩ := by
    rw [toBinary64, hMagnitude, Binary64.ofMagnitude]
    simp only [Nat.min_eq_right hBelow.le]
  obtain ⟨l, hText, hLiteral, hParts⟩ := hReads negative
  refine ⟨l, ?_, hLiteral.trans hValue, hParts⟩
  rw [Binary64.jsonText, if_pos hFinite]
  exact hText

/-- A finite double is read back from its JSON text. -/
theorem number_jsonText {x : Binary64} (hFinite : x.isFinite = true) {rest : List Char}
    (hRest : EndsNumber rest) : number (x.jsonText ++ rest) = .ok (.real x, rest) := by
  obtain ⟨l, hText, hValue, hRange, hReal⟩ := exists_literal hFinite
  subst hValue
  rw [← hText]
  exact l.number_real hReal hRange hFinite hRest

/-! A double as a value is written as its number, or as null. -/

theorem compact_ofBinary64 (x : Binary64) : (Value.ofBinary64 x).compact = x.jsonText := by
  unfold Value.ofBinary64 Binary64.jsonText
  split
  · next hFinite => simp [Value.compact, Number.text, Binary64.jsonText, hFinite]
  · rfl

theorem pretty_ofBinary64 (depth : Nat) (x : Binary64) :
    (Value.ofBinary64 x).pretty depth = x.jsonText := by
  unfold Value.ofBinary64 Binary64.jsonText
  split
  · next hFinite => simp [Value.pretty, Number.text, Binary64.jsonText, hFinite]
  · rfl

end EquityScreen.Json
