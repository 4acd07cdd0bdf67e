import EquityScreen.Query.Clause
import EquityScreen.Proofs.Digits
import EquityScreen.Proofs.Separators
import Mathlib.Data.List.Chain

/-! Reading one clause: a text that names a metric, an operator and a numeral, with white
space around the numeral. The last operator is found although labels hold signs of their
own, and the numeral is taken whole. A clause that is written as it should be, with its
label in any ASCII case, is one of these. -/
namespace EquityScreen.Text

theorem toNat_le_toLower (c : Char) : c.toNat ≤ c.toLower.toNat := by
  unfold Char.toLower
  split
  · next hCapital =>
      have hLow : 65 ≤ c.val.toNat := hCapital.1
      have hHigh : c.val.toNat ≤ 90 := hCapital.2
      change c.val.toNat ≤ (c.val + 32).toNat
      rw [UInt32.toNat_add]
      change c.val.toNat ≤ (c.val.toNat + 32) % 2 ^ 32
      omega
  · exact Nat.le_refl _

/-- Among ASCII characters lower-casing is the switch of each capital. -/
theorem lowercase_ascii {cs : List Char} (h : ∀ c ∈ cs, c.toNat < 0x80) :
    lowercase cs = cs.map asciiLower := by
  have hFrom (before : List Char) : lowercaseFrom before cs = cs.map asciiLower := by
    induction cs generalizing before with
    | nil => rfl
    | cons c cs ih =>
        have hAscii := h c List.mem_cons_self
        have hSigma : c ≠ 'Σ' := by
          rintro rfl
          exact absurd hAscii (by decide)
        have hTail := ih fun x hx => h x (List.mem_cons_of_mem c hx)
        rw [lowercaseFrom, if_neg hSigma, lowercaseChar, if_pos hAscii, hTail]
        rfl
  exact hFrom []

end EquityScreen.Text

namespace EquityScreen

open Text

namespace Query

/-- Digits with at most one point among them, one digit at least. -/
structure Numeral where
  whole : List Char
  fraction : Option (List Char)
  wholeDigits : ∀ c ∈ whole, c.isDigit = true
  fractionDigits : ∀ c ∈ fraction.getD [], c.isDigit = true
  nonempty : whole ≠ [] ∨ fraction.getD [] ≠ []

namespace Numeral

def text (n : Numeral) : List Char := n.whole ++ n.fraction.elim [] ('.' :: ·)

/-- The double nearest to the numeral. -/
def value (n : Numeral) : Binary64 :=
  (Decimal.ofDigits n.whole (n.fraction.getD []) 0).toBinary64 false

theorem ends_of_isBlank {c : Char} (h : isBlank c = true) : c.isDigit = false ∧ c ≠ '.' := by
  constructor
  · rw [Bool.eq_false_iff]
    intro hDigit
    rw [isBlank_of_isDigit hDigit] at h
    cases h
  · rintro rfl
    exact absurd h (by decide)

/-- A numeral is taken whole in front of a text that does not go on with it. -/
theorem spanDecimal_append (n : Numeral) {rest : List Char}
    (hDigit : rest.head?.any Char.isDigit = false)
    (hPoint : n.fraction = none → rest.head? ≠ some '.') :
    spanDecimal (n.text ++ rest) = (n.whole, n.fraction.getD [], rest) := by
  obtain ⟨whole, fraction, hWhole, hFraction, _⟩ := n
  cases fraction with
  | none =>
      have hSpan : spanDigits (whole ++ rest) = (whole, rest) := spanDigits_append hWhole hDigit
      have hPoint := hPoint rfl
      simp only [text, Option.elim_none, List.append_nil, spanDecimal, hSpan]
      split
      · next hPoint => exact absurd rfl hPoint
      · rfl
  | some fraction =>
      have hWholeSpan : spanDigits (whole ++ '.' :: (fraction ++ rest)) =
          (whole, '.' :: (fraction ++ rest)) := spanDigits_append hWhole rfl
      have hFractionSpan : spanDigits (fraction ++ rest) = (fraction, rest) :=
        spanDigits_append hFraction hDigit
      simp only [text, Option.elim_some, List.append_assoc, List.cons_append, spanDecimal,
        hWholeSpan, hFractionSpan, Option.getD_some]

theorem spanDecimal_text (n : Numeral) :
    spanDecimal n.text = (n.whole, n.fraction.getD [], []) := by
  have hSpan : spanDecimal (n.text ++ []) = (n.whole, n.fraction.getD [], []) :=
    n.spanDecimal_append rfl fun _ => by decide
  rwa [List.append_nil] at hSpan

theorem not_isEmpty (n : Numeral) :
    ¬(n.whole.isEmpty = true ∧ (n.fraction.getD []).isEmpty = true) := by
  rw [List.isEmpty_iff, List.isEmpty_iff, not_and_or]
  exact n.nonempty

/-- Only digits and the point stand in a numeral. -/
theorem forall_mem_text (n : Numeral) {p : Char → Prop} (hDigit : ∀ c, c.isDigit = true → p c)
    (hPoint : p '.') : ∀ c ∈ n.text, p c := by
  obtain ⟨whole, fraction, hWhole, hFraction, -⟩ := n
  intro c hc
  rcases List.mem_append.mp hc with hc | hc
  · exact hDigit c (hWhole c hc)
  · cases fraction with
    | none => exact absurd hc List.not_mem_nil
    | some fraction =>
        rcases List.mem_cons.mp hc with rfl | hc
        · exact hPoint
        · exact hDigit c (hFraction c hc)

theorem isBlank_of_mem_text (n : Numeral) : ∀ c ∈ n.text, isBlank c = false :=
  n.forall_mem_text (fun _ => isBlank_of_isDigit) (by decide)

theorem text_ne_nil (n : Numeral) : n.text ≠ [] := by
  obtain ⟨whole, fraction, -, -, hSome⟩ := n
  cases fraction with
  | none => simpa [text] using hSome
  | some fraction => simp [text]

theorem trimStart_text_append (n : Numeral) (rest : List Char) :
    trimStart (n.text ++ rest) = n.text ++ rest := by
  obtain ⟨c, tail, hText⟩ := List.exists_cons_of_ne_nil n.text_ne_nil
  have hHead : isBlank c = false :=
    n.isBlank_of_mem_text c (by rw [hText]; exact List.mem_cons_self)
  rw [hText, List.cons_append]
  exact List.dropWhile_cons_of_neg (by simp [hHead])

/-- A character that is neither a digit nor a point ends a numeral. -/
theorem spanDecimal_append_cons (n : Numeral) {c : Char} (hDigit : c.isDigit = false)
    (hPoint : c ≠ '.') (rest : List Char) :
    spanDecimal (n.text ++ c :: rest) = (n.whole, n.fraction.getD [], c :: rest) :=
  n.spanDecimal_append hDigit fun _ h => hPoint (Option.some.inj h)

/-- White space does not go on with a numeral. -/
theorem spanDecimal_append_blank (n : Numeral) {blank : List Char} (h : AllBlank blank) :
    spanDecimal (n.text ++ blank) = (n.whole, n.fraction.getD [], blank) := by
  cases blank with
  | nil => exact n.spanDecimal_append rfl fun _ => by decide
  | cons c blank =>
      obtain ⟨hDigit, hPoint⟩ := ends_of_isBlank (h c List.mem_cons_self)
      exact n.spanDecimal_append_cons hDigit hPoint blank

/-- The reader of data cells gives a numeral the same value. -/
theorem ofNumeral?_text (n : Numeral) : Binary64.ofNumeral? n.text = some n.value := by
  have hUnsigned : ∀ c ∈ n.text, c ≠ '-' ∧ c ≠ '+' := by
    refine n.forall_mem_text (fun c hc => ⟨?_, ?_⟩) (by decide) <;>
    · rintro rfl
      exact absurd hc (by decide)
  rw [Binary64.ofNumeral?, splitSign_unsigned hUnsigned]
  simp only [Decimal.ofNumeral?, n.spanDecimal_text, if_neg n.not_isEmpty, exponentPart?,
    Option.map_some]
  rfl

end Numeral

theorem splitAtOperator?_symbol (before : List Char) (op : Operator) {after : List Char}
    (hAfter : ∀ c ∈ after, Clause.isOperator c = false) :
    Clause.splitAtOperator? (before ++ op.symbol :: after) = some (before, op, after) := by
  have hSkip : ∀ c ∈ after.reverse, (!Clause.isOperator c) = true := fun c hc => by
    rw [hAfter c (List.mem_reverse.mp hc)]
    rfl
  have hFound : Operator.ofChar? op.symbol = some op := by cases op <;> decide
  have hStop : (!Clause.isOperator op.symbol) = false := by cases op <;> decide
  have hReverse : (before ++ op.symbol :: after).reverse =
      after.reverse ++ op.symbol :: before.reverse := by simp
  have hDrop : (after.reverse ++ op.symbol :: before.reverse).dropWhile
      (fun c => !Clause.isOperator c) = op.symbol :: before.reverse := by
    rw [List.dropWhile_append_of_pos hSkip, List.dropWhile_cons_of_neg (by simp [hStop])]
  have hTake : (after.reverse ++ op.symbol :: before.reverse).takeWhile
      (fun c => !Clause.isOperator c) = after.reverse := by
    rw [List.takeWhile_append_of_pos hSkip, List.takeWhile_cons_of_neg (by simp [hStop]),
      List.append_nil]
  rw [Clause.splitAtOperator?, hReverse, hDrop, hTake]
  simp [hFound]

/-! The label in front of the operator. -/

/-- A text names a metric if its label remains when the text is trimmed and in small
letters. -/
theorem ofLabel?_eq_some_iff {before : List Char} {m : Metric} :
    Metric.ofLabel? before = some m ↔ lowercase (trim before) = m.label.toList := by
  constructor
  · intro h
    have hSame := List.find?_some h
    exact (beq_iff_eq.mp hSame).symm
  · intro h
    rw [Metric.ofLabel?, h]
    cases m <;> decide

section Spelling

variable {label : List Char} {m : Metric}

/-- In small letters a spelled label is the label. -/
theorem map_asciiLower_label (hSpelled : sameIgnoringAsciiCase label m.label.toList = true) :
    label.map asciiLower = m.label.toList := by
  have hSmall : m.label.toList.map asciiLower = m.label.toList := by cases m <;> decide
  rw [← hSmall]
  exact beq_iff_eq.mp hSpelled

theorem lowercase_label (hSpelled : sameIgnoringAsciiCase label m.label.toList = true) :
    lowercase label = m.label.toList := by
  have hLabel := map_asciiLower_label hSpelled
  have hAscii : (m.label.toList.all fun c => c.toNat < 0x80) = true := by cases m <;> decide
  rw [List.all_eq_true] at hAscii
  rw [lowercase_ascii, hLabel]
  intro c hc
  have hLower : c.toLower ∈ m.label.toList := by
    rw [← hLabel]
    exact List.mem_map_of_mem hc
  exact Nat.lt_of_le_of_lt (toNat_le_toLower c) (of_decide_eq_true (hAscii _ hLower))

theorem isBlank_of_isAlpha_toLower {c : Char} (h : c.toLower.isAlpha = true) :
    isBlank c = false := by
  rw [Bool.eq_false_iff]
  intro hBlank
  have hNot : (!c.toLower.isAlpha) = true :=
    forall_blank (fun c => !c.toLower.isAlpha) (by decide +kernel) hBlank
  rw [h] at hNot
  exact Bool.false_ne_true hNot

/-- Labels begin with a letter. -/
theorem isBlank_head_label (hSpelled : sameIgnoringAsciiCase label m.label.toList = true) :
    ∀ c ∈ label.head?, isBlank c = false := by
  have hHead : m.label.toList.head?.all Char.isAlpha = true := by cases m <;> decide
  rw [← map_asciiLower_label hSpelled, List.head?_map, Option.all_eq_true] at hHead
  exact fun c hc => isBlank_of_isAlpha_toLower (hHead _ (Option.mem_map_of_mem asciiLower hc))

theorem trim_label (hSpelled : sameIgnoringAsciiCase label m.label.toList = true) :
    trim label = label := by
  have hLast : m.label.toList.getLast?.all Char.isAlpha = true := by cases m <;> decide
  rw [← map_asciiLower_label hSpelled, List.getLast?_map, Option.all_eq_true] at hLast
  refine trim_of_ends (isBlank_head_label hSpelled) fun c hc => ?_
  exact isBlank_of_isAlpha_toLower (hLast _ (Option.mem_map_of_mem asciiLower hc))

end Spelling

theorem isOperator_of_isBlank {c : Char} (h : isBlank c = true) :
    Clause.isOperator c = false := by
  have hNot : (!Clause.isOperator c) = true :=
    forall_blank (fun c => !Clause.isOperator c) (by decide +kernel) h
  rwa [Bool.not_eq_true'] at hNot

theorem isOperator_of_isDigit {c : Char} (h : c.isDigit = true) :
    Clause.isOperator c = false := by
  rw [Bool.eq_false_iff]
  intro hOperator
  rw [Clause.isOperator, Operator.ofChar?, List.find?_isSome] at hOperator
  obtain ⟨op, -, hSymbol⟩ := hOperator
  rw [← beq_iff_eq.mp hSymbol] at h
  revert h
  cases op <;> decide

/-- The parts of a clause: what stands in front of the operator, the operator, and a
numeral with white space around it. -/
structure ClauseParts where
  field : List Char
  operator : Operator
  gap : List Char
  numeral : Numeral
  rest : List Char
  blankGap : AllBlank gap
  blankRest : AllBlank rest

namespace ClauseParts

/-- What stands behind the operator. -/
def tail (p : ClauseParts) : List Char := p.gap ++ (p.numeral.text ++ p.rest)

def text (p : ClauseParts) : List Char := p.field ++ p.operator.symbol :: p.tail

/-- The operator in front of the numeral is the last one. -/
theorem isOperator_tail (p : ClauseParts) : ∀ c ∈ p.tail, Clause.isOperator c = false := by
  rw [tail]
  simp only [List.forall_mem_append]
  exact ⟨fun c hc => isOperator_of_isBlank (p.blankGap c hc),
    p.numeral.forall_mem_text (fun _ => isOperator_of_isDigit) (by decide),
    fun c hc => isOperator_of_isBlank (p.blankRest c hc)⟩

/-- A clause with a metric in front of its operator is read as the condition in it. -/
theorem parse_text (p : ClauseParts) {m : Metric}
    (hField : lowercase (trim p.field) = m.label.toList) :
    Clause.parse p.text = .ok ⟨m, p.operator, p.numeral.value⟩ := by
  have hNamed : (trim p.field).isEmpty = false := by
    rw [Bool.eq_false_iff]
    intro hNone
    rw [List.isEmpty_iff.mp hNone] at hField
    revert hField
    cases m <;> decide
  have hTail : trimStart p.tail = p.numeral.text ++ p.rest := by
    rw [tail, trimStart_append p.blankGap, p.numeral.trimStart_text_append]
  have hRest : trimStart p.rest = [] := trimStart_of_allBlank p.blankRest
  rw [text, Clause.parse, splitAtOperator?_symbol _ _ p.isOperator_tail]
  simp only [hNamed, hTail, p.numeral.spanDecimal_append_blank p.blankRest, hRest,
    ofLabel?_eq_some_iff.mpr hField, if_neg p.numeral.not_isEmpty, Bool.false_eq_true, if_false]
  rfl

end ClauseParts

/-- White space inside a clause: none of it is a line break. -/
structure Gap where
  text : List Char
  inline : ∀ c ∈ text, isBlank c = true ∧ isLineBreak c = false

theorem Gap.allBlank (g : Gap) : AllBlank g.text := fun c hc => (g.inline c hc).1

/-- A clause written as it should be, gaps from left to right. -/
structure WrittenClause where
  metric : Metric
  operator : Operator
  numeral : Numeral
  label : List Char
  spelled : sameIgnoringAsciiCase label metric.label.toList = true
  first : Gap
  second : Gap
  third : Gap
  fourth : Gap

namespace WrittenClause

/-- The clause without the white space at its ends. -/
def core (clause : WrittenClause) : List Char :=
  clause.label ++ clause.second.text ++
    clause.operator.symbol :: (clause.third.text ++ clause.numeral.text)

def text (clause : WrittenClause) : List Char :=
  clause.first.text ++ clause.core ++ clause.fourth.text

def condition (clause : WrittenClause) : Condition :=
  ⟨clause.metric, clause.operator, clause.numeral.value⟩

theorem label_ne_nil (clause : WrittenClause) : clause.label ≠ [] := by
  intro hNone
  have hSpelled := clause.spelled
  rw [hNone] at hSpelled
  revert hSpelled
  cases clause.metric <;> decide

def parts (clause : WrittenClause) : ClauseParts where
  field := clause.label ++ clause.second.text
  operator := clause.operator
  gap := clause.third.text
  numeral := clause.numeral
  rest := []
  blankGap := clause.third.allBlank
  blankRest := List.forall_mem_nil _

/-- A clause reads as the condition that it states. -/
theorem parse_core (clause : WrittenClause) :
    Clause.parse clause.core = .ok clause.condition := by
  have hCore : clause.core = clause.parts.text := by
    simp [core, ClauseParts.text, ClauseParts.tail, parts]
  have hField : lowercase (trim clause.parts.field) = clause.metric.label.toList := by
    rw [parts, trim_append_blank clause.second.allBlank, trim_label clause.spelled,
      lowercase_label clause.spelled]
  rw [hCore]
  exact clause.parts.parse_text hField

end WrittenClause

end Query

end EquityScreen
