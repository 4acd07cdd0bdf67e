import EquityScreen.Proofs.ClauseReading
import Mathlib.Data.List.Basic

/-! The grammar of clauses. A text is read as a condition exactly if it can be put together
from a label, an operator and a numeral with white space around it, and then in one way
only. A text with anything else behind an operator is refused. -/
namespace EquityScreen.Text

/-- Small letters leave a character of ASCII alone that has no small letter. -/
theorem mem_lowercase {c : Char} (hAscii : c.toNat < 0x80) (hSame : c.toLower = c)
    {cs : List Char} (h : c ∈ cs) : c ∈ lowercase cs := by
  have hFrom (before : List Char) : c ∈ lowercaseFrom before cs := by
    induction cs generalizing before with
    | nil => exact absurd h List.not_mem_nil
    | cons d cs ih =>
        rw [lowercaseFrom, List.mem_append]
        rcases List.mem_cons.mp h with rfl | hMem
        · have hSigma : c ≠ 'Σ' := by
            rintro rfl
            exact absurd hAscii (by decide)
          rw [if_neg hSigma, lowercaseChar, if_pos hAscii, hSame]
          exact .inl List.mem_cons_self
        · exact .inr (ih hMem _)
  exact hFrom []

end EquityScreen.Text

namespace EquityScreen

open Text

namespace Query

/-- An operator of a clause, with what stands around it. -/
theorem eq_of_splitAtOperator? {clause before after : List Char} {op : Operator}
    (h : Clause.splitAtOperator? clause = some (before, op, after)) :
    clause = before ++ op.symbol :: after := by
  have hText : clause.reverse.takeWhile (fun c => !Clause.isOperator c) ++
      clause.reverse.dropWhile (fun c => !Clause.isOperator c) = clause.reverse :=
    List.takeWhile_append_dropWhile
  unfold Clause.splitAtOperator? at h
  split at h
  · cases h
  · next c front hDrop =>
      obtain ⟨op', hFound, hParts⟩ := Option.map_eq_some_iff.mp h
      obtain ⟨rfl, rfl, rfl⟩ : front.reverse = before ∧ op' = op ∧
          (clause.reverse.takeWhile fun c => !Clause.isOperator c).reverse = after := by
        simpa using hParts
      have hSymbol : op'.symbol = c := by simpa using List.find?_some hFound
      calc
        clause = (clause.reverse.takeWhile (fun c => !Clause.isOperator c) ++
            c :: front).reverse := by rw [← hDrop, hText, List.reverse_reverse]
        _ = _ := by simp [hSymbol]

/-- Digits in front of a text, with a point among them or not, are a numeral. -/
theorem exists_numeral_of_spanDecimal {cs whole fraction rest : List Char}
    (h : spanDecimal cs = (whole, fraction, rest))
    (hSome : ¬(whole.isEmpty = true ∧ fraction.isEmpty = true)) :
    ∃ n : Numeral, cs = n.text ++ rest ∧
      n.value = (Decimal.ofDigits whole fraction 0).toBinary64 false := by
  have hSplit (cs : List Char) : (spanDigits cs).1 ++ (spanDigits cs).2 = cs :=
    List.takeWhile_append_dropWhile
  have hDigits (cs : List Char) : ∀ c ∈ (spanDigits cs).1, c.isDigit = true :=
    fun c hc => List.mem_takeWhile_imp hc
  rw [List.isEmpty_iff, List.isEmpty_iff, not_and_or] at hSome
  unfold spanDecimal at h
  dsimp only at h
  split at h
  · next behind hPoint =>
      simp only [Prod.mk.injEq] at h
      obtain ⟨rfl, rfl, rfl⟩ := h
      refine ⟨⟨_, some _, hDigits cs, hDigits behind, hSome⟩, ?_, rfl⟩
      rw [Numeral.text, Option.elim_some, List.append_assoc, List.cons_append, hSplit behind,
        ← hPoint, hSplit cs]
  · simp only [Prod.mk.injEq] at h
    obtain ⟨rfl, rfl, rfl⟩ := h
    refine ⟨⟨_, none, hDigits cs, List.forall_mem_nil _, hSome⟩, ?_, rfl⟩
    rw [Numeral.text, Option.elim_none, List.append_nil, hSplit cs]

/-- What it takes for a text to be read: an operator with a label in front of it, and digits
behind it with white space after them. -/
theorem exists_of_parse {clause : List Char} {c : Condition} (h : Clause.parse clause = .ok c) :
    ∃ before after whole fraction rest,
      Clause.splitAtOperator? clause = some (before, c.operator, after) ∧
      spanDecimal (trimStart after) = (whole, fraction, rest) ∧
      ¬(whole.isEmpty = true ∧ fraction.isEmpty = true) ∧ trimStart rest = [] ∧
      Metric.ofLabel? before = some c.field ∧
      (Decimal.ofDigits whole fraction 0).toBinary64 false = c.value := by
  unfold Clause.parse at h
  split at h
  · cases h
  · next before op after hSplit =>
      dsimp only at h
      generalize hSpan : spanDecimal (trimStart after) = span at h
      obtain ⟨whole, fraction, rest⟩ := span
      dsimp only at h
      split_ifs at h with hName hNone hRest
      split at h
      · cases h
      · next m hLabel =>
          cases h
          exact ⟨before, after, whole, fraction, rest, hSplit, hSpan, hNone, by simpa using hRest,
            hLabel, rfl⟩

/-- Whatever is read as a condition has the parts of a clause, with the label of the
metric in front of the operator. -/
theorem exists_parts_of_parse {clause : List Char} {c : Condition}
    (h : Clause.parse clause = .ok c) :
    ∃ p : ClauseParts, p.text = clause ∧ lowercase (trim p.field) = c.field.label.toList ∧
      p.operator = c.operator ∧ p.numeral.value = c.value := by
  obtain ⟨before, after, whole, fraction, rest, hSplit, hSpan, hSome, hRest, hLabel, hResult⟩ :=
    exists_of_parse h
  have hClause := eq_of_splitAtOperator? hSplit
  obtain ⟨gap, hGap, hAfter⟩ := exists_eq_append_trimStart after
  obtain ⟨n, hNumeral, hValue⟩ := exists_numeral_of_spanDecimal hSpan hSome
  have hBlank : AllBlank rest := trimStart_eq_nil_iff.mp hRest
  refine ⟨⟨before, c.operator, gap, n, rest, hGap, hBlank⟩, ?_, ofLabel?_eq_some_iff.mp hLabel,
    rfl, hValue.trans hResult⟩
  rw [ClauseParts.text, ClauseParts.tail, ← hNumeral, ← hAfter, hClause]

/-! One clause has one set of parts. -/

theorem Numeral.text_injective {n n' : Numeral} (hWhole : n.whole = n'.whole)
    (h : n.text = n'.text) : n = n' := by
  obtain ⟨whole, fraction, _, _, _⟩ := n
  obtain ⟨whole', fraction', _, _, _⟩ := n'
  obtain rfl : whole = whole' := hWhole
  have hFraction : fraction = fraction' := by
    have hPoint := List.append_cancel_left h
    cases fraction <;> cases fraction' <;> simp_all
  subst hFraction
  rfl

/-- The numeral in front of white space is all that a number can be read from. -/
theorem Numeral.rest_of_spanDecimal (n : Numeral) {blank whole fraction rest : List Char}
    (hBlank : AllBlank blank) (h : spanDecimal (n.text ++ blank) = (whole, fraction, rest)) :
    n.whole = whole ∧ rest = blank := by
  rw [n.spanDecimal_append_blank hBlank] at h
  simp only [Prod.mk.injEq] at h
  exact ⟨h.1, h.2.2.symm⟩

namespace ClauseParts

theorem trimStart_tail (p : ClauseParts) : trimStart p.tail = p.numeral.text ++ p.rest := by
  rw [tail, trimStart_append p.blankGap, p.numeral.trimStart_text_append]

/-- The operator is the last one of the text, and the numeral reaches as far as it can. -/
theorem text_injective {p q : ClauseParts} (h : p.text = q.text) : p = q := by
  have hSplit : (p.field, p.operator, p.tail) = (q.field, q.operator, q.tail) := by
    rw [← Option.some.injEq, ← splitAtOperator?_symbol p.field p.operator p.isOperator_tail,
      ← splitAtOperator?_symbol q.field q.operator q.isOperator_tail]
    exact congrArg Clause.splitAtOperator? h
  simp only [Prod.mk.injEq] at hSplit
  obtain ⟨hField, hOperator, hTail⟩ := hSplit
  have hNumber : p.numeral.text ++ p.rest = q.numeral.text ++ q.rest := by
    rw [← p.trimStart_tail, ← q.trimStart_tail, hTail]
  have hGap : p.gap = q.gap := by
    rw [tail, tail, hNumber] at hTail
    exact List.append_cancel_right hTail
  obtain ⟨hWhole, hRest⟩ := p.numeral.rest_of_spanDecimal p.blankRest
    (hNumber ▸ q.numeral.spanDecimal_append_blank q.blankRest)
  have hNumeral : p.numeral = q.numeral := by
    rw [hRest] at hNumber
    exact Numeral.text_injective hWhole (List.append_cancel_right hNumber)
  cases p
  cases q
  simp_all

end ClauseParts

/-! What is refused behind an operator. -/

/-- The label of a metric holds no operator, and no text with an operator becomes one in
small letters. -/
theorem isOperator_field {field : List Char} {m : Metric}
    (h : lowercase (trim field) = m.label.toList) : ∀ c ∈ field, Clause.isOperator c = false := by
  intro c hc
  rw [Bool.eq_false_iff]
  intro hOperator
  have hBlank : isBlank c = false := by
    rw [Bool.eq_false_iff]
    intro hBlank
    rw [isOperator_of_isBlank hBlank] at hOperator
    cases hOperator
  obtain ⟨op, hFound⟩ := Option.isSome_iff_exists.mp hOperator
  obtain rfl : op.symbol = c := by simpa using List.find?_some hFound
  have hLabel : op.symbol ∈ m.label.toList := by
    rw [← h]
    refine mem_lowercase ?_ ?_ (mem_trim hc hBlank) <;> cases op <;> decide
  revert hLabel
  cases m <;> cases op <;> decide

/-- Texts that are no numeral with white space behind it: signs, further operators,
exponents, second points and anything else that trails. -/
inductive Malformed : List Char → Prop where
  | sign {c : Char} (signs : c = '+' ∨ c = '-') (rest : List Char) : Malformed (c :: rest)
  | operator (op : Operator) (rest : List Char) : Malformed (op.symbol :: rest)
  | exponent (n : Numeral) {e : Char} (marks : e = 'e' ∨ e = 'E') (rest : List Char) :
      Malformed (n.text ++ e :: rest)
  | point {whole fraction : List Char} (digits : ∀ c ∈ whole ++ fraction, c.isDigit = true)
      (rest : List Char) : Malformed (whole ++ '.' :: (fraction ++ '.' :: rest))
  | trailing (n : Numeral) {blank : List Char} (allBlank : AllBlank blank) {c : Char}
      (isText : isBlank c = false) (apart : blank = [] → c.isDigit = false ∧ c ≠ '.')
      (rest : List Char) : Malformed (n.text ++ (blank ++ c :: rest))

/-- Only a digit or a point opens a numeral. -/
theorem Numeral.text_append_ne_cons (n : Numeral) {c : Char} (hDigit : c.isDigit = false)
    (hPoint : c ≠ '.') (behind rest : List Char) : n.text ++ behind ≠ c :: rest := by
  intro hText
  obtain ⟨first, tail, hFirst⟩ := List.exists_cons_of_ne_nil n.text_ne_nil
  have hMem : c ∈ n.text := by
    rw [hFirst, List.cons_append] at hText
    rw [hFirst, (List.cons.inj hText).1]
    exact List.mem_cons_self
  have hOther : ∀ d ∈ n.text, d ≠ c := by
    refine n.forall_mem_text (fun d hd hSame => ?_) hPoint.symm
    rw [hSame, hDigit] at hd
    cases hd
  exact hOther c hMem rfl

/-- White space behind a numeral is all that may be there: no text with something else
behind its digits is one. -/
theorem Numeral.text_append_ne (n : Numeral) {blank text whole fraction rest : List Char}
    (hBlank : AllBlank blank) (hSpan : spanDecimal text = (whole, fraction, rest))
    (hRest : ¬AllBlank rest) : n.text ++ blank ≠ text := by
  rintro rfl
  exact hRest ((n.rest_of_spanDecimal hBlank hSpan).2 ▸ hBlank)

theorem Numeral.text_append_ne_trailing (n n' : Numeral) {blank blank' : List Char}
    (hBlank : AllBlank blank) (hBlank' : AllBlank blank') {c : Char} (hText : isBlank c = false)
    (hApart : blank' = [] → c.isDigit = false ∧ c ≠ '.') (rest : List Char) :
    n.text ++ blank ≠ n'.text ++ (blank' ++ c :: rest) := by
  have hSpan : spanDecimal (n'.text ++ (blank' ++ c :: rest)) =
      (n'.whole, n'.fraction.getD [], blank' ++ c :: rest) := by
    cases blank' with
    | nil => exact n'.spanDecimal_append_cons (hApart rfl).1 (hApart rfl).2 rest
    | cons d blank' =>
        obtain ⟨hDigit, hPoint⟩ := Numeral.ends_of_isBlank (hBlank' d List.mem_cons_self)
        exact n'.spanDecimal_append_cons hDigit hPoint _
  refine n.text_append_ne hBlank hSpan fun hAll => ?_
  rw [hAll c (by simp)] at hText
  cases hText

namespace Malformed

variable {text : List Char}

theorem trimStart_eq (h : Malformed text) : trimStart text = text := by
  have hCons {c : Char} (hc : isBlank c = false) (rest : List Char) :
      trimStart (c :: rest) = c :: rest := List.dropWhile_cons_of_neg (by simp [hc])
  cases h with
  | sign signs rest => rcases signs with rfl | rfl <;> exact hCons (by decide) rest
  | operator op rest => cases op <;> exact hCons (by decide) rest
  | exponent n => exact n.trimStart_text_append _
  | @point whole fraction digits rest =>
      cases whole with
      | nil => exact hCons (by decide) _
      | cons c whole => exact hCons (isBlank_of_isDigit (digits c List.mem_cons_self)) _
  | trailing n => exact n.trimStart_text_append _

/-- No numeral with white space behind it is malformed. -/
theorem ne_numeral (h : Malformed text) (n : Numeral) {blank : List Char}
    (hBlank : AllBlank blank) : n.text ++ blank ≠ text := by
  cases h with
  | sign signs rest =>
      rcases signs with rfl | rfl <;>
        exact n.text_append_ne_cons (by decide) (by decide) _ _
  | operator op rest =>
      cases op <;> exact n.text_append_ne_cons (by decide) (by decide) _ _
  | exponent n' marks rest =>
      have hNone : AllBlank [] := List.forall_mem_nil _
      refine n.text_append_ne_trailing n' hBlank hNone ?_ (fun _ => ?_) rest <;>
        rcases marks with rfl | rfl <;> decide
  | @point whole fraction digits rest =>
      obtain ⟨hWhole, hFraction⟩ := List.forall_mem_append.mp digits
      have hSpan : spanDecimal (whole ++ '.' :: (fraction ++ '.' :: rest)) =
          (whole, fraction, '.' :: rest) := by
        have hWholeSpan : spanDigits (whole ++ '.' :: (fraction ++ '.' :: rest)) =
            (whole, '.' :: (fraction ++ '.' :: rest)) := spanDigits_append hWhole rfl
        have hFractionSpan : spanDigits (fraction ++ '.' :: rest) = (fraction, '.' :: rest) :=
          spanDigits_append hFraction rfl
        simp only [spanDecimal, hWholeSpan, hFractionSpan]
      refine n.text_append_ne hBlank hSpan fun hAll => ?_
      exact absurd (hAll '.' List.mem_cons_self) (by decide)
  | trailing n' allBlank isText apart rest =>
      exact n.text_append_ne_trailing n' hBlank allBlank isText apart rest

end Malformed

theorem exists_error_of_malformed (field : List Char) (op : Operator) {gap rest : List Char}
    (hGap : AllBlank gap) (h : Malformed rest) :
    ∃ e, Clause.parse (field ++ op.symbol :: (gap ++ rest)) = .error e := by
  cases hParse : Clause.parse (field ++ op.symbol :: (gap ++ rest)) with
  | error e => exact ⟨e, rfl⟩
  | ok c =>
      obtain ⟨p, hText, hField, -⟩ := exists_parts_of_parse hParse
      have hSymbol : Clause.isOperator op.symbol = true := by cases op <;> decide
      have hNot {cs : List Char} (hcs : ∀ c ∈ cs, Clause.isOperator c = false) :
          op.symbol ∉ cs := fun hMem => by
        rw [hcs _ hMem] at hSymbol
        cases hSymbol
      -- Neither label nor numeral holds the operator, so both texts are cut at the same one.
      have hTail := ((List.append_cons_inj_of_notMem (hNot (isOperator_field hField))
        (hNot p.isOperator_tail)).mp hText).2.2
      have hNumber := congrArg trimStart hTail
      rw [p.trimStart_tail, trimStart_append hGap, h.trimStart_eq] at hNumber
      exact absurd hNumber (h.ne_numeral p.numeral p.blankRest)

/-- A text is read as a condition exactly if it is made of a label in any case, an operator
and a numeral with white space around it; it is made of these in one way only, and with
a sign, a further operator, an exponent, a second point or anything else trailing it is
refused. -/
theorem clause_grammar (clause : List Char) :
    (∀ m op v, Clause.parse clause = .ok ⟨m, op, v⟩ ↔
      ∃ p : ClauseParts, p.text = clause ∧ lowercase (trim p.field) = m.label.toList ∧
        p.operator = op ∧ Binary64.ofNumeral? p.numeral.text = some v) ∧
    (∀ p q : ClauseParts, p.text = clause → q.text = clause → p = q) ∧
    ∀ field (op : Operator) gap rest, clause = field ++ op.symbol :: (gap ++ rest) → AllBlank gap →
      Malformed rest → ∃ e, Clause.parse clause = .error e := by
  refine ⟨fun m op v => ⟨fun h => ?_, ?_⟩, fun p q hp hq => ?_, ?_⟩
  · obtain ⟨p, hText, hField, hOperator, hValue⟩ := exists_parts_of_parse h
    refine ⟨p, hText, hField, hOperator, ?_⟩
    rw [p.numeral.ofNumeral?_text, hValue]
  · rintro ⟨p, rfl, hField, rfl, hValue⟩
    rw [p.numeral.ofNumeral?_text, Option.some.injEq] at hValue
    rw [p.parse_text hField, hValue]
  · exact ClauseParts.text_injective (hp.trans hq.symm)
  · rintro field op gap rest rfl hGap hRest
    exact exists_error_of_malformed field op hGap hRest

/-- The Kelvin sign is a letter k in another case, and an em space is white space. -/
example : Clause.parse "\nMAR\u212AET capitalization\r>\u2003.5\n".toList =
    .ok ⟨.marketCapitalization, .greater, .ofMagnitude false 0x3FE0000000000000⟩ := by
  decide +kernel

end Query

end EquityScreen
