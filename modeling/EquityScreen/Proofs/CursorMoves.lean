import EquityScreen.Proofs.AsciiCase
import EquityScreen.Proofs.BytePositions
import EquityScreen.Proofs.ClauseGrammar
import EquityScreen.Proofs.SeparatorSpans
import EquityScreen.Query.Cursor

/-! The moves of a cursor that stands between two parts of a text. None of them is stopped:
the cursor goes past characters and is then between two parts again, and each loop leaves
less of the text in every round. -/
namespace EquityScreen.Query.Scan

open Text

section Loops

variable {State : Type} {left : State → Nat} {round : State → Except Stop (Option State)}
  {s t u : State}

theorem loop_done (h : round s = .ok none) : loop left round s = .ok s := by
  rw [loop, h]

theorem loop_next (h : round s = .ok (some t)) (hLess : left t < left s) :
    loop left round s = loop left round t := by
  rw [loop, h]
  exact if_pos hLess

/-- The states that a loop comes to, round after round. -/
inductive Reaches (round : State → Except Stop (Option State)) : State → State → Prop where
  | refl (s : State) : Reaches round s s
  | round {s t u : State} (first : round s = .ok (some t)) (rest : Reaches round t u) :
      Reaches round s u

/-- A loop ends in a state that it reaches. -/
theorem Reaches.of_loop (h : loop left round s = .ok t) : Reaches round s t := by
  induction hLeft : left s using Nat.strong_induction_on generalizing s with
  | _ n ih =>
      subst hLeft
      rw [loop] at h
      split at h
      · cases h
      · cases h
        exact .refl _
      · next next hRound =>
          split_ifs at h with hLess
          exact .round hRound (ih _ hLess h rfl)

/-- However often a loop has gone round from a state on, it is in place, the next round is not
stopped, and less is left after it. -/
def GoesThrough (placed : State → Prop) (left : State → Nat)
    (round : State → Except Stop (Option State)) (s : State) : Prop :=
  ∀ u, Reaches round s u →
    placed u ∧ ∃ next?, round u = .ok next? ∧ ∀ next ∈ next?, left next < left u

/-- It is enough that each round which begins in place ends in place and leaves less. -/
theorem GoesThrough.of_round {placed : State → Prop}
    (hRound : ∀ u, placed u →
      ∃ next?, round u = .ok next? ∧ ∀ next ∈ next?, placed next ∧ left next < left u)
    (hs : placed s) : GoesThrough placed left round s := by
  intro u hReaches
  induction hReaches with
  | refl s =>
      obtain ⟨next?, hNext, hPlaced⟩ := hRound s hs
      exact ⟨hs, next?, hNext, fun next h => (hPlaced next h).2⟩
  | round first rest ih =>
      obtain ⟨next?, hNext, hPlaced⟩ := hRound _ hs
      rw [first, Except.ok.injEq] at hNext
      exact ih (hPlaced _ hNext.symm).1

end Loops

theorem cut_append (front back : List Char) :
    cut (utf8Size front) (front ++ back) = .ok (front, back) := by
  rw [cut, cutAt?_append]

/-- A cut loses nothing, and is where it was asked for. -/
theorem eq_of_cut {position : Nat} {text : List Char} {parts : List Char × List Char}
    (h : cut position text = .ok parts) :
    text = parts.1 ++ parts.2 ∧ position = utf8Size parts.1 := by
  unfold cut at h
  split at h
  · next parts hCut =>
      cases h
      exact eq_of_cutAt? hCut
  · cases h

theorem slice_append (front piece back : List Char) :
    slice (front ++ (piece ++ back)) (utf8Size front) (utf8Size (front ++ piece)) =
      .ok ⟨utf8Size front, piece⟩ := by
  have hStop := cut_append (front ++ piece) back
  rw [List.append_assoc] at hStop
  rw [slice, hStop]
  change (do
    let parts ← cut (utf8Size front) (front ++ piece)
    return (⟨utf8Size front, parts.2⟩ : Slice)) = _
  rw [cut_append]
  rfl

namespace Cursor

/-- The cursor between two parts of a text. -/
def between (front rest : List Char) : Cursor := ⟨front ++ rest, utf8Size front⟩

variable (front : List Char) {rest : List Char}

theorem start_eq (text : List Char) : start text = between [] text := rfl

theorem text_between (rest : List Char) : (between front rest).text = front ++ rest := rfl

theorem position_between (rest : List Char) : (between front rest).position = utf8Size front :=
  rfl

theorem left_between (rest : List Char) : (between front rest).left = utf8Size rest := by
  change utf8Size (front ++ rest) - utf8Size front = _
  rw [utf8Size_append, Nat.add_sub_cancel_left]

theorem moveTo_between (passed rest : List Char) :
    (between front (passed ++ rest)).moveTo (utf8Size front + utf8Size passed) =
      .ok (between (front ++ passed) rest) := by
  have hCut := cut_append (front ++ passed) rest
  rw [utf8Size_append, List.append_assoc] at hCut
  rw [moveTo, between, hCut, between, utf8Size_append, List.append_assoc]
  rfl

/-- The way back over what was passed. -/
theorem moveTo_back (passed rest : List Char) :
    (between (front ++ passed) rest).moveTo (utf8Size front) =
      .ok (between front (passed ++ rest)) := by
  rw [moveTo, between, List.append_assoc, cut_append]
  rfl

theorem remaining_between (rest : List Char) : (between front rest).remaining = .ok rest := by
  rw [remaining, between, cut_append]
  rfl

theorem peek_between (rest : List Char) : (between front rest).peek = .ok rest.head? := by
  rw [peek, remaining_between]
  rfl

theorem advance_between (c : Char) (rest : List Char) :
    (between front (c :: rest)).advance = .ok (between (front ++ [c]) rest) := by
  rw [advance, peek_between]
  have hMove := moveTo_between front [c] rest
  rw [utf8Size_singleton] at hMove
  exact hMove

/-- Past what lies behind the cursor less is left. -/
theorem left_past {passed : List Char} (h : passed ≠ []) (rest : List Char) :
    (between (front ++ passed) rest).left < (between front (passed ++ rest)).left := by
  rw [left_between, left_between, utf8Size_append]
  exact Nat.lt_add_of_pos_left (utf8Size_pos h)

theorem left_advance (c : Char) (rest : List Char) :
    (between (front ++ [c]) rest).left < (between front (c :: rest)).left :=
  left_past front (List.cons_ne_nil c []) rest

theorem blankRound_nil : blankRound (between front []) = .ok none := by
  rw [blankRound, peek_between]
  rfl

theorem blankRound_cons (c : Char) (rest : List Char) :
    blankRound (between front (c :: rest)) =
      .ok (if isBlank c then some (between (front ++ [c]) rest) else none) := by
  rw [blankRound, peek_between]
  change (if isBlank c = true then _ else _) = _
  split
  · rw [advance_between]
    rfl
  · rfl

theorem skipBlanks_between (rest : List Char) :
    (between front rest).skipBlanks =
      .ok (between (front ++ rest.takeWhile isBlank) (trimStart rest)) := by
  rw [skipBlanks]
  induction rest generalizing front with
  | nil =>
      rw [loop_done (blankRound_nil front), List.takeWhile_nil, List.append_nil]
      rfl
  | cons c rest ih =>
      have hRound := blankRound_cons front c rest
      rw [trimStart, List.takeWhile_cons, List.dropWhile_cons]
      split
      · next hBlank =>
          rw [if_pos hBlank] at hRound
          rw [loop_next hRound (left_advance front c rest), ih, List.append_assoc]
          rfl
      · next hBlank =>
          rw [if_neg hBlank] at hRound
          rw [loop_done hRound, List.append_nil]

theorem loop_tokenRound (token rest : List Char) :
    loop (fun s => utf8Size s.2) tokenRound (token, rest) =
      .ok (token ++ rest.takeWhile (fun c => !isBlank c),
        rest.dropWhile fun c => !isBlank c) := by
  induction rest generalizing token with
  | nil => rw [loop_done rfl, List.takeWhile_nil, List.append_nil, List.dropWhile_nil]
  | cons c rest ih =>
      have hRound : tokenRound (token, c :: rest) =
          if isBlank c then .ok none else .ok (some (token ++ [c], rest)) := rfl
      cases hBlank : isBlank c with
      | true =>
          rw [hBlank, if_pos rfl] at hRound
          rw [loop_done hRound, List.takeWhile_cons, List.dropWhile_cons, hBlank]
          simp
      | false =>
          rw [hBlank, if_neg Bool.false_ne_true] at hRound
          have hLess : utf8Size rest < utf8Size (c :: rest) :=
            Nat.lt_add_of_pos_left c.utf8Size_pos
          rw [loop_next hRound hLess, ih, List.takeWhile_cons, List.dropWhile_cons, hBlank]
          simp

theorem token?_between (rest : List Char) :
    (between front rest).token? = .ok (Clause.token? rest) := by
  rw [Cursor.token?, remaining_between]
  change (do
    let s ← loop (fun s : List Char × List Char => utf8Size s.2) tokenRound ([], rest)
    return if s.1.isEmpty then none else some s.1) = _
  rw [loop_tokenRound, Clause.token?]
  cases rest.takeWhile fun c => !isBlank c <;> rfl

/-- At the end of a clause only white space may be left; anything else is named from its first
character on. -/
theorem expectEnd_between (rest : List Char) :
    (between front rest).expectEnd =
      if (trimStart rest).isEmpty then .ok ()
      else .error (.rejected ⟨.trailingText (trimStart rest),
        utf8Size (front ++ rest.takeWhile isBlank)⟩) := by
  rw [expectEnd, skipBlanks_between]
  simp only [bind, Except.bind, position_between, text_between, remaining_between,
    utf8Size_append (front ++ rest.takeWhile isBlank) (trimStart rest)]
  cases trimStart rest with
  | nil => exact if_neg (Nat.lt_irrefl _)
  | cons c behind => exact if_pos (Nat.lt_add_of_pos_right (utf8Size_pos (List.cons_ne_nil _ _)))

/-- In any case the word AND has three bytes, so that it is cut off a text that begins with it. -/
theorem cutAt?_letters {letters : List Char}
    (h : sameIgnoringAsciiCase letters ['A', 'N', 'D'] = true) (after : List Char) :
    cutAt? (utf8Size "AND".toList) (letters ++ after) = some (letters, after) := by
  have hSize : utf8Size letters = utf8Size "AND".toList := utf8Size_of_sameIgnoringAsciiCase h
  rw [← hSize, cutAt?_append]

/-- The cursor finds the keyword where a separate AND stands. -/
theorem atKeyword_of_separate {letters after : List Char}
    (hOpens : front.getLast?.any isWordChar = false)
    (hSpelled : sameIgnoringAsciiCase letters ['A', 'N', 'D'] = true)
    (hCloses : after.head?.any isWordChar = false) :
    (between front (letters ++ after)).atKeyword "AND".toList = .ok true := by
  have hSame : sameIgnoringAsciiCase letters "AND".toList = true := hSpelled
  rw [atKeyword, between, cut_append]
  simp only [bind, Except.bind, hOpens, Bool.false_eq_true, if_false, cutAt?_letters hSpelled,
    if_pos hSame, cut, hCloses]
  rfl

/-- Where no separate AND stands, the look ahead is not stopped either. -/
theorem atKeyword_of_none {rest : List Char} (h : startsWithAnd front.getLast? rest = false) :
    (between front rest).atKeyword "AND".toList = .ok false := by
  rw [atKeyword, between, cut_append]
  simp only [bind, Except.bind]
  split
  · rfl
  · next hOpens =>
      split
      · next head after hCut =>
          split
          · next hSame =>
              obtain ⟨a, n, d, rfl, -⟩ := exists_letters hSame
              obtain ⟨rfl, -⟩ := eq_of_cutAt? hCut
              have hAnd : isSeparateAnd front.getLast? a n d after.head? = false := h
              have hSpelled : sameIgnoringAsciiCase [a, n, d] ['A', 'N', 'D'] = true := hSame
              rw [isSeparateAnd, Bool.eq_false_iff.mpr hOpens, hSpelled] at hAnd
              simp only [cut, hCut]
              exact congrArg Except.ok hAnd
          · rfl
      · rfl

end Cursor

/-! Reading a number. The digits in front of the point and those behind it are taken by the
same rounds; what is left then is no further part of the number. -/

section Numbers

variable (front : List Char) (hasPoint : Bool) (digits : Nat)

theorem numberRound_nil : numberRound ⟨.between front [], hasPoint, digits⟩ = .ok none := by
  rw [numberRound, Cursor.peek_between]
  rfl

theorem numberRound_cons (c : Char) (rest : List Char) :
    numberRound ⟨.between front (c :: rest), hasPoint, digits⟩ =
      .ok (if c.isDigit then some ⟨.between (front ++ [c]) rest, hasPoint, digits + 1⟩
        else if c == '.' && !hasPoint then some ⟨.between (front ++ [c]) rest, true, digits⟩
        else none) := by
  rw [numberRound, Cursor.peek_between]
  change (if c.isDigit = true then _ else _) = _
  split
  · rw [Cursor.advance_between]
    rfl
  · split
    · rw [Cursor.advance_between]
      rfl
    · rfl

abbrev numberLoop : NumberScan → Except Stop NumberScan :=
  loop (fun s => s.cursor.left) numberRound

/-- A row of digits is gone through and counted. -/
theorem numberLoop_digits (rest : List Char) :
    numberLoop ⟨.between front rest, hasPoint, digits⟩ =
      numberLoop ⟨.between (front ++ (spanDigits rest).1) (spanDigits rest).2, hasPoint,
        digits + (spanDigits rest).1.length⟩ := by
  induction rest generalizing front digits with
  | nil =>
      change _ = numberLoop ⟨.between (front ++ []) [], hasPoint, digits + 0⟩
      rw [List.append_nil, Nat.add_zero]
  | cons c rest ih =>
      have hRound := numberRound_cons front hasPoint digits c rest
      rw [spanDigits, List.takeWhile_cons, List.dropWhile_cons]
      split
      · next hDigit =>
          rw [if_pos hDigit] at hRound
          rw [numberLoop, loop_next hRound (Cursor.left_advance front c rest)]
          change numberLoop _ = _
          rw [ih, spanDigits, List.append_assoc, List.length_cons, Nat.add_right_comm]
          rfl
      · rw [List.append_nil, List.length_nil, Nat.add_zero]

/-- Where neither a digit nor a first point follows, the number is over. -/
theorem numberLoop_done {rest : List Char} (hDigit : rest.head?.any Char.isDigit = false)
    (hPoint : hasPoint = false → rest.head? ≠ some '.') :
    numberLoop ⟨.between front rest, hasPoint, digits⟩ =
      .ok ⟨.between front rest, hasPoint, digits⟩ := by
  cases rest with
  | nil => exact loop_done (numberRound_nil front hasPoint digits)
  | cons c rest =>
      have hNone : ¬(c == '.' && !hasPoint) = true := by
        rw [Bool.and_eq_true, beq_iff_eq, Bool.not_eq_true']
        rintro ⟨rfl, hFirst⟩
        exact hPoint hFirst rfl
      have hRound := numberRound_cons front hasPoint digits c rest
      rw [if_neg (Bool.not_eq_true _ ▸ hDigit), if_neg hNone] at hRound
      exact loop_done hRound

/-- Digits go as far as they can. -/
theorem isDigit_head_spanDigits (cs : List Char) :
    (spanDigits cs).2.head?.any Char.isDigit = false := by
  have hNone := head?_dropWhile_eq_false Char.isDigit cs
  rw [spanDigits]
  cases hHead : (cs.dropWhile Char.isDigit).head? with
  | none => rfl
  | some c => exact hNone c hHead

/-- The number loop goes through what a decimal takes of a text, and counts its digits. -/
theorem numberLoop_decimal {rest whole fraction behind : List Char}
    (h : spanDecimal rest = (whole, fraction, behind)) :
    ∃ scanned hasPoint, rest = scanned ++ behind ∧
      numberLoop ⟨.between front rest, false, 0⟩ =
        .ok ⟨.between (front ++ scanned) behind, hasPoint, whole.length + fraction.length⟩ := by
  have hSplit (cs : List Char) : (spanDigits cs).1 ++ (spanDigits cs).2 = cs :=
    List.takeWhile_append_dropWhile
  have hWhole := numberLoop_digits front false 0 rest
  rw [Nat.zero_add] at hWhole
  unfold spanDecimal at h
  dsimp only at h
  split at h
  · next afterPoint hPoint =>
      simp only [Prod.mk.injEq] at h
      obtain ⟨rfl, rfl, rfl⟩ := h
      have hRound := numberRound_cons (front ++ (spanDigits rest).1) false
        (spanDigits rest).1.length '.' afterPoint
      refine ⟨(spanDigits rest).1 ++ ['.'] ++ (spanDigits afterPoint).1, true, ?_, ?_⟩
      · rw [List.append_assoc, hSplit, List.append_assoc, List.singleton_append, ← hPoint, hSplit]
      · rw [hWhole, hPoint, numberLoop, loop_next hRound (Cursor.left_advance _ _ _)]
        change numberLoop _ = _
        rw [numberLoop_digits, numberLoop_done _ _ _ (isDigit_head_spanDigits _) (by simp)]
        simp only [List.append_assoc]
  · next hPoint =>
      simp only [Prod.mk.injEq] at h
      obtain ⟨rfl, rfl, rfl⟩ := h
      refine ⟨(spanDigits rest).1, false, (hSplit rest).symm, ?_⟩
      rw [hWhole, numberLoop_done _ _ _ (isDigit_head_spanDigits _)]
      · rfl
      · intro _ hHead
        obtain ⟨afterPoint, hRest⟩ := List.head?_eq_some_iff.mp hHead
        exact hPoint afterPoint hRest

/-- Without digits the clause is rejected at the place where the number should begin. -/
theorem number_missing {rest behind : List Char}
    (h : spanDecimal (trimStart rest) = ([], [], behind)) :
    (Cursor.between front rest).number =
      .error (.rejected ⟨.missingNumber (Clause.token? (trimStart rest)),
        utf8Size (front ++ rest.takeWhile isBlank)⟩) := by
  obtain ⟨scanned, hasPoint, hScanned, hLoop⟩ :=
    numberLoop_decimal (front ++ rest.takeWhile isBlank) h
  rw [numberLoop] at hLoop
  rw [Cursor.number, Cursor.skipBlanks_between]
  simp only [bind, Except.bind, hLoop, List.length_nil, Nat.add_zero, if_true,
    Cursor.position_between, Cursor.moveTo_back, ← hScanned, Cursor.token?_between]
  rfl

/-- Behind a number the cursor stands where its digits end, and the digits are a number. -/
theorem number_found {rest whole fraction behind : List Char}
    (h : spanDecimal (trimStart rest) = (whole, fraction, behind))
    (hSome : ¬(whole.isEmpty = true ∧ fraction.isEmpty = true)) :
    ∃ scanned, trimStart rest = scanned ++ behind ∧
      (Cursor.between front rest).number =
        .ok ((Decimal.ofDigits whole fraction 0).toBinary64 false,
          .between (front ++ rest.takeWhile isBlank ++ scanned) behind) := by
  obtain ⟨n, hText, hValue⟩ := exists_numeral_of_spanDecimal h hSome
  obtain ⟨scanned, hasPoint, hScanned, hLoop⟩ :=
    numberLoop_decimal (front ++ rest.takeWhile isBlank) h
  obtain rfl : n.text = scanned := List.append_cancel_right (hText.symm.trans hScanned)
  have hDigits : ¬whole.length + fraction.length = 0 := by
    rw [List.isEmpty_iff, List.isEmpty_iff] at hSome
    rw [Nat.add_eq_zero_iff, List.length_eq_zero_iff, List.length_eq_zero_iff]
    exact hSome
  refine ⟨n.text, hScanned, ?_⟩
  have hSlice := slice_append (front ++ rest.takeWhile isBlank) n.text behind
  rw [← hText] at hSlice
  rw [numberLoop] at hLoop
  rw [Cursor.number, Cursor.skipBlanks_between]
  simp only [bind, Except.bind, hLoop, if_neg hDigits, Cursor.text_between,
    Cursor.position_between, hSlice, n.ofNumeral?_text, hValue]
  rfl

end Numbers

end EquityScreen.Query.Scan
