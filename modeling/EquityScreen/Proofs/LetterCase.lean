import EquityScreen.Proofs.ClauseScan
import EquityScreen.Proofs.QueryReport
import EquityScreen.Screen

/-! Letter case in queries. What a clause is read as does not depend on the case of its
letters, up to the letters that an error quotes, and separators stand in the same places.
Two texts that differ in case alone are therefore cut at the same positions, give the same
conditions, and are rejected in the same places. -/
namespace EquityScreen

open Text

/-- A fault, the text it quotes in small letters. -/
def ClauseFault.small : ClauseFault → ClauseFault
  | missingOperator => missingOperator
  | missingField => missingField
  | missingNumber found => missingNumber (found.map (List.map asciiLower))
  | trailingText text => trailingText (text.map asciiLower)
  | unknownField name => unknownField (name.map asciiLower)

def ClauseError.small (e : ClauseError) : ClauseError := ⟨e.fault.small, e.position⟩

def Query.RejectedClause.small (r : RejectedClause) : RejectedClause :=
  ⟨r.clause.map asciiLower, r.error.small⟩

def Text.Slice.small (s : Slice) : Slice := ⟨s.start, s.text.map asciiLower⟩

/-! Reading a clause in small letters. -/

theorem asciiLower_of_isDigit {c : Char} (h : c.isDigit = true) : asciiLower c = c := by
  have hCapital : ∀ n ∈ List.range' 65 26, (Char.ofNat n).isDigit = false := by decide
  rcases asciiLower_cases c with hSame | ⟨n, hn, rfl⟩
  · exact hSame
  · rw [hCapital n hn] at h
    cases h

theorem spanDigits_map_asciiLower (cs : List Char) :
    spanDigits (cs.map asciiLower) = ((spanDigits cs).1, (spanDigits cs).2.map asciiLower) := by
  have hDigits : (cs.takeWhile Char.isDigit).map asciiLower = cs.takeWhile Char.isDigit := by
    refine (List.map_congr_left fun c hc => ?_).trans (List.map_id _)
    exact asciiLower_of_isDigit (List.mem_takeWhile_imp hc)
  rw [spanDigits, takeWhile_map_asciiLower isDigit_asciiLower,
    dropWhile_map_asciiLower isDigit_asciiLower, hDigits, spanDigits]

/-- The digits of a decimal have no case. -/
theorem spanDecimal_map_asciiLower (cs : List Char) :
    spanDecimal (cs.map asciiLower) =
      ((spanDecimal cs).1, (spanDecimal cs).2.1, (spanDecimal cs).2.2.map asciiLower) := by
  have hPoint (c : Char) : (asciiLower c = '.') = (c = '.') :=
    asciiLower_invariant (fun c => c = '.') (by decide) c
  unfold spanDecimal
  simp only [spanDigits_map_asciiLower]
  cases (spanDigits cs).2 with
  | nil => rfl
  | cons c rest =>
      by_cases hSome : c = '.'
      · subst hSome
        have hDot : asciiLower '.' = '.' := rfl
        simp only [List.map_cons, hDot, spanDigits_map_asciiLower]
      · have hNone : ¬asciiLower c = '.' := by rwa [hPoint]
        rw [List.map_cons]
        split
        · next hHead => exact absurd (List.cons.inj hHead).1 hNone
        · split
          · next hHead => exact absurd (List.cons.inj hHead).1 hSome
          · rfl

namespace Clause

theorem splitAtOperator?_map_asciiLower (clause : List Char) :
    splitAtOperator? (clause.map asciiLower) =
      (splitAtOperator? clause).map fun (before, op, after) =>
        (before.map asciiLower, op, after.map asciiLower) := by
  have hOperator : ∀ c, (!isOperator (asciiLower c)) = !isOperator c :=
    asciiLower_invariant (fun c => !isOperator c) (by decide)
  rw [splitAtOperator?, ← List.map_reverse, dropWhile_map_asciiLower hOperator,
    takeWhile_map_asciiLower hOperator, splitAtOperator?]
  cases clause.reverse.dropWhile fun c => !isOperator c with
  | nil => rfl
  | cons c before =>
      have hSymbol : Operator.ofChar? (asciiLower c) = Operator.ofChar? c :=
        asciiLower_invariant Operator.ofChar? (by decide) c
      simp only [List.map_cons, hSymbol, Option.map_map, ← List.map_reverse]
      rfl

theorem token?_map_asciiLower (cs : List Char) :
    token? (cs.map asciiLower) = (token? cs).map (List.map asciiLower) := by
  have hBlank : ∀ c, (!isBlank (asciiLower c)) = !isBlank c :=
    asciiLower_invariant (fun c => !isBlank c) (by decide +kernel)
  rw [token?, takeWhile_map_asciiLower hBlank, token?]
  cases cs.takeWhile fun c => !isBlank c <;> rfl

/-- A clause in small letters gives the same condition, or the same error at the same place. -/
theorem parse_map_asciiLower (clause : List Char) :
    parse (clause.map asciiLower) = (parse clause).mapError ClauseError.small := by
  rw [parse, splitAtOperator?_map_asciiLower, parse]
  cases splitAtOperator? clause with
  | none =>
      rw [Option.map_none, utf8Size_map_asciiLower]
      rfl
  | some parts =>
      obtain ⟨before, op, after⟩ := parts
      simp only [Option.map_some, trim_map_asciiLower, trimStart_map_asciiLower,
        spanDecimal_map_asciiLower, token?_map_asciiLower, utf8Size_map_asciiLower,
        List.isEmpty_map, Metric.ofLabel?_map_asciiLower,
        takeWhile_map_asciiLower isBlank_asciiLower]
      split_ifs
      · rfl
      · rfl
      · rfl
      · cases Metric.ofLabel? before <;> rfl

end Clause

namespace Query

/-! Cutting a text up to the case of its letters. -/

theorem isWordChar_asciiLower (c : Char) : isWordChar (asciiLower c) = isWordChar c :=
  asciiLower_invariant isWordChar (by decide +kernel) c

theorem isLineBreak_asciiLower (c : Char) : isLineBreak (asciiLower c) = isLineBreak c :=
  asciiLower_invariant isLineBreak (by decide) c

theorem any_isWordChar_map_asciiLower (c? : Option Char) :
    (c?.map asciiLower).any isWordChar = c?.any isWordChar := by
  cases c? with
  | none => rfl
  | some c => exact isWordChar_asciiLower c

/-- A separator is one in any case, between texts in any case. -/
theorem Separates.recase {front back letters front' back' letters' : List Char}
    (h : Separates front back letters) (hFront : front.map asciiLower = front'.map asciiLower)
    (hBack : back.map asciiLower = back'.map asciiLower)
    (hLetters : letters.map asciiLower = letters'.map asciiLower) :
    Separates front' back' letters' := by
  cases h with
  | @lineBreak c breaks =>
      obtain ⟨d, rfl, hSame⟩ := List.map_eq_singleton_iff.mp hLetters.symm
      refine .lineBreak ?_
      rw [← isLineBreak_asciiLower, hSame, isLineBreak_asciiLower, breaks]
  | word spelled opens closes =>
      refine .word ?_ ?_ ?_
      · rw [sameIgnoringAsciiCase_iff] at spelled ⊢
        exact hLetters.symm.trans spelled
      · rw [← any_isWordChar_map_asciiLower, ← List.getLast?_map, ← hFront, List.getLast?_map,
          any_isWordChar_map_asciiLower, opens]
      · rw [← any_isWordChar_map_asciiLower, ← List.head?_map, ← hBack, List.head?_map,
          any_isWordChar_map_asciiLower, closes]

variable {text other : List Char}

theorem Span.IsSeparator.recase {s : Span} (h : s.IsSeparator text)
    (hSame : text.map asciiLower = other.map asciiLower) : s.IsSeparator other := by
  obtain ⟨front, letters, back, rfl, rfl, hSep⟩ := h
  rw [List.map_append, List.map_append] at hSame
  obtain ⟨front', behind, rfl, hFront, hBehind⟩ := List.map_eq_append_iff.mp hSame.symm
  obtain ⟨letters', back', rfl, hLetters, hBack⟩ := List.map_eq_append_iff.mp hBehind
  refine ⟨front', letters', back', rfl, ?_, hSep.recase hFront.symm hBack.symm hLetters.symm⟩
  have hFrontLength := congrArg List.length hFront
  have hLettersLength := congrArg List.length hLetters
  rw [List.length_map, List.length_map] at hFrontLength hLettersLength
  rw [hFrontLength, hLettersLength]

/-- Texts that differ in case alone have their separators in the same places. -/
theorem Separators.recase {start : Nat} {spans : List Span} (h : Separators text start spans)
    (hSame : text.map asciiLower = other.map asciiLower) : Separators other start spans where
  mem_iff s := by
    rw [h.mem_iff]
    exact and_congr_left fun _ => ⟨fun hs => hs.recase hSame, fun hs => hs.recase hSame.symm⟩
  apart := h.apart

theorem map_small_slicesBetween (text : List Char) (start : Nat) (spans : List Span) :
    (slicesBetween text start spans).map Slice.small =
      slicesBetween (text.map asciiLower) start spans := by
  induction spans generalizing start with
  | nil =>
      rw [slicesBetween, List.map_singleton, Slice.small, slicesBetween, ← List.map_take,
        ← List.map_drop, utf8Size_map_asciiLower]
  | cons s spans ih =>
      rw [slicesBetween, List.map_cons, ih, Slice.small, slicesBetween, ← List.map_take,
        ← List.map_drop, ← List.map_take, utf8Size_map_asciiLower]

theorem trim_small (s : Slice) : s.small.trim = s.trim.small := by
  simp only [Slice.trim, Slice.small, takeWhile_map_asciiLower isBlank_asciiLower,
    utf8Size_map_asciiLower, trim_map_asciiLower]

/-- Small letters may come before or after the trimming and the leaving out of empty pieces. -/
theorem map_small_trimmed (pieces : List Slice) :
    ((pieces.map Slice.trim).filter fun piece => !piece.text.isEmpty).map Slice.small =
      ((pieces.map Slice.small).map Slice.trim).filter fun piece => !piece.text.isEmpty := by
  have hTrim : (pieces.map Slice.small).map Slice.trim =
      (pieces.map Slice.trim).map Slice.small := by
    rw [List.map_map, List.map_map]
    exact List.map_congr_left fun piece _ => trim_small piece
  have hEmpty : (fun piece : Slice => !piece.text.isEmpty) ∘ Slice.small =
      fun piece => !piece.text.isEmpty :=
    funext fun piece => congrArg not List.isEmpty_map
  rw [hTrim, List.filter_map (f := Slice.small), hEmpty]

/-- Texts that differ in case alone are cut at the same places. -/
theorem exists_cutClauses_recase (hSame : text.map asciiLower = other.map asciiLower) :
    ∃ pieces others, Scan.cutClauses text = .ok pieces ∧ Scan.cutClauses other = .ok others ∧
      pieces.map Slice.small = others.map Slice.small := by
  obtain ⟨spans, hSpans, hPieces⟩ := Scan.exists_cutClauses text
  obtain ⟨spans', hSpans', hOthers⟩ := Scan.exists_cutClauses other
  obtain rfl := (hSpans.recase hSame).unique hSpans'
  refine ⟨_, _, hPieces, hOthers, ?_⟩
  rw [map_small_trimmed, map_small_trimmed, map_small_slicesBetween, map_small_slicesBetween, hSame]

theorem map_small_splitClauses {pieces : List Slice} (h : Scan.cutClauses text = .ok pieces) :
    (splitClauses text).map (List.map asciiLower) = (pieces.map Slice.small).map Slice.text := by
  rw [← Scan.cutClauses_text h, List.map_map, List.map_map]
  rfl

/-! Reading the clauses of a text in small letters. -/

theorem parse_eq_small (text : List Char) :
    parse text = ((splitClauses text).map (List.map asciiLower)).filterMap fun clause =>
      (Clause.parse clause).toOption := by
  rw [parse, List.filterMap_map]
  refine List.filterMap_congr fun clause _ => ?_
  rw [Function.comp_apply, Clause.parse_map_asciiLower]
  cases Clause.parse clause <;> rfl

theorem rejection?_map_asciiLower (clause : List Char) :
    rejection? (clause.map asciiLower) = (rejection? clause).map RejectedClause.small := by
  rw [rejection?, Clause.parse_map_asciiLower, rejection?]
  cases Clause.parse clause <;> rfl

theorem map_small_rejected (text : List Char) :
    (explain text).rejected.map RejectedClause.small =
      ((splitClauses text).map (List.map asciiLower)).filterMap rejection? := by
  rw [explain_eq, List.map_filterMap, List.filterMap_map]
  exact List.filterMap_congr fun clause _ => (rejection?_map_asciiLower clause).symm

theorem rejected_eq {pieces : List Slice} (h : Scan.cutClauses text = .ok pieces) :
    (explain text).rejected = pieces.filterMap fun piece => rejection? piece.text := by
  rw [explain_eq, ← Scan.cutClauses_text h, List.filterMap_map]
  rfl

/-- Two clauses that take up the same bytes of their texts and differ in case alone. They are
read as the same condition, or rejected at the same position with messages that differ in case
alone. -/
structure Alike (piece other : Slice) : Prop where
  start : piece.start = other.start
  size : utf8Size piece.text = utf8Size other.text
  letters : sameIgnoringAsciiCase piece.text other.text = true
  reading : (Clause.parse piece.text).mapError ClauseError.small =
    (Clause.parse other.text).mapError ClauseError.small

theorem Alike.of_small {piece other : Slice} (h : piece.small = other.small) :
    Alike piece other := by
  have hStart : piece.small.start = other.small.start := congrArg Slice.start h
  have hText : piece.text.map asciiLower = other.text.map asciiLower := congrArg Slice.text h
  have hLetters : sameIgnoringAsciiCase piece.text other.text = true :=
    sameIgnoringAsciiCase_iff.mpr hText
  refine ⟨hStart, utf8Size_of_sameIgnoringAsciiCase hLetters, hLetters, ?_⟩
  rw [← Clause.parse_map_asciiLower, hText, Clause.parse_map_asciiLower]

/-- Letter case never changes what a query means. Queries that differ in case alone give the
same conditions; they are cut at the same bytes into clauses of which each is read or rejected
like the other; and they select the same stocks of every list. -/
theorem case_makes_no_difference (h : sameIgnoringAsciiCase text other = true) :
    parse other = parse text ∧
    (∃ pieces others, Scan.cutClauses text = .ok pieces ∧ Scan.cutClauses other = .ok others ∧
      List.Forall₂ Alike pieces others ∧
      (explain text).rejected = (pieces.filterMap fun piece => rejection? piece.text) ∧
      (explain other).rejected = others.filterMap fun piece => rejection? piece.text) ∧
    (explain other).rejected.map RejectedClause.small =
      (explain text).rejected.map RejectedClause.small ∧
    ∀ stocks, screen stocks other = screen stocks text := by
  obtain ⟨pieces, others, hPieces, hOthers, hSmall⟩ :=
    exists_cutClauses_recase (sameIgnoringAsciiCase_iff.mp h)
  have hClauses : (splitClauses other).map (List.map asciiLower) =
      (splitClauses text).map (List.map asciiLower) := by
    rw [map_small_splitClauses hPieces, map_small_splitClauses hOthers, hSmall]
  have hParse : parse other = parse text := by
    rw [parse_eq_small other, hClauses, ← parse_eq_small text]
  have hAlike : List.Forall₂ Alike pieces others := by
    have hEach : List.Forall₂ Eq (pieces.map Slice.small) (others.map Slice.small) := by
      rw [List.forall₂_eq_eq_eq, hSmall]
    rw [List.forall₂_map_left_iff, List.forall₂_map_right_iff] at hEach
    exact hEach.imp fun _ _ => Alike.of_small
  refine ⟨hParse, ⟨pieces, others, hPieces, hOthers, hAlike, rejected_eq hPieces,
    rejected_eq hOthers⟩, ?_, fun stocks => ?_⟩
  · rw [map_small_rejected, map_small_rejected, hClauses]
  · rw [screen, hParse, screen]

theorem case_makes_no_difference_mixed :
    sameIgnoringAsciiCase "ROE > 15 and ΣX = 1".toList "roe > 15 AND Σx = 1".toList = true ∧
      parse "roe > 15 AND Σx = 1".toList = parse "ROE > 15 and ΣX = 1".toList :=
  ⟨by decide, (case_makes_no_difference (by decide)).1⟩

end Query

end EquityScreen
