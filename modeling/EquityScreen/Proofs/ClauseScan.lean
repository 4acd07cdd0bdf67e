import EquityScreen.Proofs.ClauseErrors
import EquityScreen.Proofs.CursorMoves
import EquityScreen.Query.Scan

/-! Scanning by byte positions. The cursor stays between the characters of the text, every
cut is made there, every round of a loop leaves less of the text, and what is found is what
splitting and reading the characters find. -/
namespace EquityScreen.Query

open Text

/-- The stretches of a text in front of, between and behind spans, from a place on. -/
def slicesBetween (text : List Char) (start : Nat) : List Span → List Slice
  | [] => [⟨utf8Size (text.take start), text.drop start⟩]
  | s :: spans =>
    ⟨utf8Size (text.take start), (text.drop start).take (s.start - start)⟩ ::
      slicesBetween text s.stop spans

theorem map_text_slicesBetween (text : List Char) (start : Nat) (spans : List Span) :
    (slicesBetween text start spans).map Slice.text = between text start spans := by
  induction spans generalizing start with
  | nil => rfl
  | cons s spans ih => rw [slicesBetween, List.map_cons, ih, between]

/-- The stretch up to the next span begins where the one before ended. -/
theorem slicesBetween_cons (before piece behind : List Char) (length : Nat) (spans : List Span) :
    slicesBetween (before ++ (piece ++ behind)) before.length
        (⟨(before ++ piece).length, length⟩ :: spans) =
      ⟨utf8Size before, piece⟩ ::
        slicesBetween (before ++ (piece ++ behind)) ((before ++ piece).length + length) spans := by
  have hLength : (before ++ piece).length - before.length = piece.length := by
    rw [List.length_append, Nat.add_sub_cancel_left]
  rw [slicesBetween, List.take_left, List.drop_left, hLength, List.take_left]
  rfl

namespace Scan

section Splitting

variable {before piece rest : List Char} (pieces : List Slice)

theorem splitRound_end (start : Nat) (front : List Char) :
    splitRound ⟨.between front [], start, pieces⟩ = .ok none := by
  rw [splitRound, Cursor.peek_between]
  rfl

/-- At a separator the piece in front of it is cut off, and the next one begins behind it. -/
theorem splitRound_separator {letters : List Char} (h : Separates (before ++ piece) rest letters) :
    splitRound ⟨.between (before ++ piece) (letters ++ rest), utf8Size before, pieces⟩ =
      .ok (some ⟨.between (before ++ piece ++ letters) rest,
        utf8Size (before ++ piece ++ letters), pieces ++ [⟨utf8Size before, piece⟩]⟩) := by
  have hSlice : slice (Cursor.between (before ++ piece) (letters ++ rest)).text (utf8Size before)
      (Cursor.between (before ++ piece) (letters ++ rest)).position =
        .ok ⟨utf8Size before, piece⟩ := by
    rw [Cursor.text_between, Cursor.position_between, List.append_assoc, slice_append]
  rw [splitRound, Cursor.peek_between]
  cases h with
  | @lineBreak c breaks =>
      change (if isLineBreak c = true then _ else _) = _
      rw [if_pos breaks, hSlice, List.singleton_append, Cursor.advance_between]
      rfl
  | word spelled opens closes =>
      have hKeyword := Cursor.atKeyword_of_separate (before ++ piece) opens spelled closes
      have hMove : (Cursor.between (before ++ piece) (letters ++ rest)).moveTo
          ((Cursor.between (before ++ piece) (letters ++ rest)).position +
            utf8Size "AND".toList) = .ok (.between (before ++ piece ++ letters) rest) := by
        have hSize : utf8Size letters = utf8Size "AND".toList :=
          utf8Size_of_sameIgnoringAsciiCase spelled
        rw [Cursor.position_between, ← hSize, Cursor.moveTo_between]
      obtain ⟨a, n, d, rfl, hWord, -⟩ := exists_letters spelled
      have hBreak : ¬isLineBreak a = true := by
        intro hBreak
        rw [isWordChar_of_isLineBreak hBreak] at hWord
        cases hWord
      change (if isLineBreak a = true then _ else _) = _
      rw [if_neg hBreak, hKeyword, hSlice]
      simp only [bind, Except.bind, if_true, hMove]
      rfl

/-- Any other character is gone past. -/
theorem splitRound_char {front : List Char} {a : Char} (start : Nat)
    (hBreak : isLineBreak a = false) (hAnd : startsWithAnd front.getLast? (a :: rest) = false) :
    splitRound ⟨.between front (a :: rest), start, pieces⟩ =
      .ok (some ⟨.between (front ++ [a]) rest, start, pieces⟩) := by
  rw [splitRound, Cursor.peek_between]
  change (if isLineBreak a = true then _ else _) = _
  rw [hBreak, if_neg Bool.false_ne_true, Cursor.atKeyword_of_none front hAnd,
    Cursor.advance_between]
  rfl

end Splitting

abbrev splitLoop : Splitting → Except Stop Splitting := loop (fun s => s.cursor.left) splitRound

/-- From a place of a text on the scan cuts it at all separators that are there. -/
def CutsOn (front rest : List Char) : Prop :=
  ∀ (before piece : List Char) (pieces : List Slice), front = before ++ piece →
    ∃ spans s, Separators (front ++ rest) front.length spans ∧
      splitLoop ⟨.between front rest, utf8Size before, pieces⟩ = .ok s ∧
      ∃ passed last, front ++ rest = passed ++ last ∧ s.start = utf8Size passed ∧
        s.pieces ++ [⟨s.start, last⟩] =
          pieces ++ slicesBetween (front ++ rest) before.length spans

namespace CutsOn

variable {front rest : List Char}

theorem nil (front : List Char) : CutsOn front [] := by
  rintro before piece pieces rfl
  refine ⟨[], _, ?_, loop_done (splitRound_end pieces _ _), before, piece, ?_, rfl, ?_⟩
  · rw [List.append_nil]
    exact .none_at_end _
  · rw [List.append_nil]
  · rw [List.append_nil, slicesBetween, List.take_left, List.drop_left]

theorem separator {letters : List Char} (hSep : Separates front rest letters)
    (h : CutsOn (front ++ letters) rest) : CutsOn front (letters ++ rest) := by
  rintro before piece pieces rfl
  obtain ⟨spans, s, hSpans, hLoop, passed, last, hText, hStart, hPieces⟩ :=
    h (before ++ piece ++ letters) [] (pieces ++ [⟨utf8Size before, piece⟩])
      (List.append_nil _).symm
  have hRound := splitRound_separator pieces hSep
  have hLength : (before ++ piece ++ letters).length = (before ++ piece).length + letters.length :=
    List.length_append
  rw [List.append_assoc _ letters rest] at hSpans hText hPieces
  refine ⟨⟨(before ++ piece).length, letters.length⟩ :: spans, s, ?_, ?_, passed, last, hText,
    hStart, ?_⟩
  · rw [hLength] at hSpans
    exact hSpans.cons ⟨_, letters, rest, rfl, rfl, hSep⟩
  · rw [splitLoop, loop_next hRound (Cursor.left_past _ hSep.ne_nil rest)]
    exact hLoop
  · rw [hPieces, List.append_assoc before piece, slicesBetween_cons, List.append_assoc pieces,
      hLength]
    rfl

theorem char {a : Char} (hBreak : isLineBreak a = false)
    (hAnd : startsWithAnd front.getLast? (a :: rest) = false)
    (h : CutsOn (front ++ [a]) rest) : CutsOn front (a :: rest) := by
  intro before piece pieces hFront
  obtain ⟨spans, s, hSpans, hLoop, hPieces⟩ :=
    h before (piece ++ [a]) pieces (by rw [hFront, List.append_assoc])
  have hRound := splitRound_char pieces (utf8Size before) hBreak hAnd
  rw [List.append_assoc, List.singleton_append] at hSpans hPieces
  rw [List.length_append] at hSpans
  refine ⟨spans, s, hSpans.skip (not_isSeparator_of_char hBreak hAnd), ?_, hPieces⟩
  rw [splitLoop, loop_next hRound (Cursor.left_advance front a rest)]
  exact hLoop

end CutsOn

theorem cutsOn (front rest : List Char) : CutsOn front rest :=
  separator_induction CutsOn.nil (fun hSep => CutsOn.separator hSep) CutsOn.char front rest

/-- The scan gives the trimmed stretches between the separators of a text, empty ones left out. -/
theorem exists_cutClauses (text : List Char) :
    ∃ spans, Separators text 0 spans ∧
      cutClauses text = .ok (((slicesBetween text 0 spans).map Slice.trim).filter
        fun piece => !piece.text.isEmpty) := by
  obtain ⟨spans, s, hSpans, hLoop, passed, last, hText, hStart, hPieces⟩ :=
    cutsOn [] text [] [] [] rfl
  have hCut : cut s.start text = .ok (passed, last) := by
    rw [hStart, ← List.nil_append text, hText, cut_append]
  change loop (fun s => s.cursor.left) splitRound ⟨.between [] text, 0, []⟩ = .ok s at hLoop
  refine ⟨spans, hSpans, ?_⟩
  rw [cutClauses, Cursor.start_eq]
  simp only [bind, Except.bind, hLoop, hCut, hPieces]
  rfl

/-- The scan of a text is never stopped, and it finds the clauses of the text. -/
theorem cutClauses_text {text : List Char} {clauses : List Slice}
    (h : cutClauses text = .ok clauses) : clauses.map Slice.text = splitClauses text := by
  obtain ⟨spans, hSpans, hScan⟩ := exists_cutClauses text
  obtain ⟨spans', hSpans', hSegments⟩ := exists_separators_segments text
  obtain rfl := hSpans'.unique hSpans
  rw [h, Except.ok.injEq] at hScan
  calc
    clauses.map Slice.text =
        (((slicesBetween text 0 spans').map Slice.trim).map Slice.text).filter
          fun clause => !clause.isEmpty := by
      rw [hScan, List.filter_map (f := Slice.text)]
      rfl
    _ = (((slicesBetween text 0 spans').map Slice.text).map trim).filter
          fun clause => !clause.isEmpty := by
      rw [List.map_map, List.map_map]
      rfl
    _ = splitClauses text := by rw [map_text_slicesBetween, splitClauses, hSegments]

/-! Reading a clause from its last operator on. -/

theorem charPositions_append (position : Nat) (front back : List Char) :
    charPositions position (front ++ back) =
      charPositions position front ++ charPositions (position + utf8Size front) back := by
  induction front generalizing position with
  | nil => rfl
  | cons c front ih =>
      rw [List.cons_append, charPositions, charPositions, ih, utf8Size, Nat.add_assoc,
        List.cons_append]

theorem mem_of_mem_charPositions {position : Nat} {text : List Char} {p : Nat × Char}
    (h : p ∈ charPositions position text) : p.2 ∈ text := by
  induction text generalizing position with
  | nil => cases h
  | cons c text ih =>
      rcases List.mem_cons.mp h with rfl | h
      · exact List.mem_cons_self
      · exact List.mem_cons_of_mem c (ih h)

/-- Among characters that are no operators none is found. -/
theorem findSome?_operator_none {position : Nat} {text : List Char}
    (h : ∀ c ∈ text, Clause.isOperator c = false) :
    (charPositions position text).reverse.findSome? (fun (position, c) =>
      (Operator.ofChar? c).map fun op => (position, op)) = none := by
  rw [List.findSome?_eq_none_iff]
  rintro ⟨position, c⟩ hp
  have hNone := h c (mem_of_mem_charPositions (List.mem_reverse.mp hp))
  rw [Clause.isOperator, Option.isSome_eq_false_iff, Option.isNone_iff_eq_none] at hNone
  dsimp only
  rw [hNone, Option.map_none]

theorem lastOperator?_symbol (before : List Char) (op : Operator) {after : List Char}
    (h : ∀ c ∈ after, Clause.isOperator c = false) :
    lastOperator? (before ++ op.symbol :: after) = some (utf8Size before, op) := by
  have hFound : Operator.ofChar? op.symbol = some op := by cases op <;> decide
  rw [lastOperator?, charPositions_append, charPositions, List.reverse_append, List.reverse_cons,
    List.findSome?_append, List.findSome?_append, findSome?_operator_none h]
  simp [hFound]

/-- Read by byte positions a clause comes to what reading its characters comes to: the same
condition, or the same error. -/
theorem parse_eq (clause : List Char) :
    parse clause = (Clause.parse clause).mapError Stop.rejected := by
  rcases operator_cases clause with hNone | ⟨before, op, after, rfl, hLast⟩
  · rw [parse, lastOperator?, findSome?_operator_none hNone, Clause.parse,
      splitAtOperator?_none hNone]
    rfl
  have hMove : (Cursor.start (before ++ op.symbol :: after)).moveTo
      (utf8Size before + op.symbol.utf8Size) = .ok (.between (before ++ [op.symbol]) after) := by
    have hPassed := Cursor.moveTo_between [] (before ++ [op.symbol]) after
    rwa [List.append_assoc, utf8Size, Nat.zero_add, utf8Size_append, utf8Size_singleton] at hPassed
  rw [parse, lastOperator?_symbol before op hLast, Clause.parse,
    splitAtOperator?_symbol before op hLast]
  simp only [bind, Except.bind, cut_append]
  generalize hSpan : spanDecimal (trimStart after) = span
  obtain ⟨whole, fraction, rest⟩ := span
  by_cases hName : (trim before).isEmpty = true
  · rw [if_pos hName, if_pos hName]
    rfl
  rw [if_neg hName, if_neg hName, hMove]
  dsimp only
  -- The two count their positions from different ends of the clause.
  have hText : before ++ op.symbol :: after = before ++ [op.symbol] ++ after := by
    rw [List.append_assoc, List.singleton_append]
  by_cases hDigits : whole.isEmpty = true ∧ fraction.isEmpty = true
  · obtain ⟨rfl, rfl⟩ : whole = [] ∧ fraction = [] := by simpa using hDigits
    rw [number_missing _ hSpan, if_pos hDigits, hText, utf8Size_sub_trimStart]
    rfl
  obtain ⟨scanned, hScanned, hNumber⟩ := number_found (before ++ [op.symbol]) hSpan hDigits
  rw [hNumber, if_neg hDigits]
  dsimp only
  rw [Cursor.expectEnd_between]
  by_cases hRest : (trimStart rest).isEmpty = true
  · rw [if_pos hRest, if_neg (by simpa using hRest)]
    have hName : Metric.ofLabel? (trim before) = Metric.ofLabel? before := by
      rw [Metric.ofLabel?, trim_trim, Metric.ofLabel?]
    have hIndent : utf8Size before - utf8Size (trimStart before) =
        utf8Size (before.takeWhile isBlank) := utf8Size_sub_trimStart [] before
    rw [hName, hIndent]
    cases Metric.ofLabel? before <;> rfl
  · have hBehind : before ++ [op.symbol] ++ after =
        before ++ [op.symbol] ++ after.takeWhile isBlank ++ scanned ++ rest := by
      rw [List.append_assoc _ scanned, ← hScanned, List.append_assoc _ (after.takeWhile isBlank),
        trimStart, List.takeWhile_append_dropWhile]
    rw [if_neg hRest, if_pos (by simpa using hRest), hText, hBehind, utf8Size_sub_trimStart]
    rfl

end Scan

end EquityScreen.Query
