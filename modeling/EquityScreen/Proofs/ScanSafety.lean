import EquityScreen.Proofs.ClauseScan

/-! No scan of a text is stopped. Each round of a loop begins with the cursor between two
characters of the text and ends so, further on; every run of the loop then stays in the text,
and everything it cuts off lies there. -/
namespace EquityScreen.Query.Scan

open Text

/-- The cursor goes through a text, and stands where a character begins or at an end. -/
structure Cursor.StandsIn (text : List Char) (c : Cursor) : Prop where
  text_eq : c.text = text
  boundary : IsBoundary text c.position

/-- While a text is split, the pieces cut off lie in it, and so does the one on the way, from
where it began up to the cursor. -/
structure Splitting.StandsIn (text : List Char) (s : Splitting) : Prop where
  pieces : ∀ piece ∈ s.pieces, piece.LiesIn text
  piece : ∃ before piece rest, text = before ++ (piece ++ rest) ∧ s.start = utf8Size before ∧
    s.cursor = .between (before ++ piece) rest

/-- Nothing that a cursor does from its place on is stopped, but for what is wrong with a
clause. -/
structure Cursor.NeverStopped (text : List Char) (c : Cursor) : Prop where
  position_le : c.position ≤ utf8Size text
  advance : ∃ next, c.advance = .ok next ∧ next.StandsIn text
  keyword : ∀ keyword, ∃ found, c.atKeyword keyword = .ok found
  blanks : GoesThrough (Cursor.StandsIn text) Cursor.left blankRound c ∧
    ∃ next, c.skipBlanks = .ok next ∧ next.StandsIn text
  digits : GoesThrough (fun s => s.cursor.StandsIn text) (fun s => s.cursor.left) numberRound
    ⟨c, false, 0⟩
  number : (∃ value next, c.number = .ok (value, next) ∧ next.StandsIn text) ∨
    ∃ error, c.number = .error (.rejected error)
  token : ∃ rest, c.remaining = .ok rest ∧
    GoesThrough (fun s => s.1 ++ s.2 = rest) (fun s => utf8Size s.2) tokenRound ([], rest)
  ending : c.expectEnd = .ok () ∨ ∃ error, c.expectEnd = .error (.rejected error)

namespace Cursor

variable {text : List Char} {c : Cursor}

theorem standsIn_between (front rest : List Char) :
    (between front rest).StandsIn (front ++ rest) :=
  ⟨rfl, front, rest, rfl, rfl⟩

/-- Past some characters the cursor stands in the same text. -/
theorem standsIn_past (front passed rest : List Char) :
    (between (front ++ passed) rest).StandsIn (front ++ (passed ++ rest)) := by
  rw [← List.append_assoc]
  exact standsIn_between (front ++ passed) rest

/-- Past one character it stands in the same text, further on. -/
theorem past_placed (front : List Char) (ch : Char) (rest : List Char) :
    (between (front ++ [ch]) rest).StandsIn (front ++ ch :: rest) ∧
      (between (front ++ [ch]) rest).left < (between front (ch :: rest)).left :=
  ⟨standsIn_past front [ch] rest, left_advance front ch rest⟩

theorem StandsIn.exists_between (h : c.StandsIn text) :
    ∃ front rest, text = front ++ rest ∧ c = between front rest := by
  obtain ⟨here, position⟩ := c
  obtain ⟨rfl, front, rest, hText, rfl⟩ := h
  exact ⟨front, rest, hText, congrArg (Cursor.mk · _) hText⟩

/-- A round over white space. -/
theorem blankRound_placed (h : c.StandsIn text) :
    ∃ next?, blankRound c = .ok next? ∧
      ∀ next ∈ next?, next.StandsIn text ∧ next.left < c.left := by
  obtain ⟨front, rest, rfl, rfl⟩ := h.exists_between
  cases rest with
  | nil => exact ⟨none, blankRound_nil front, fun next hNext => by cases hNext⟩
  | cons ch rest =>
      refine ⟨_, blankRound_cons front ch rest, fun next hNext => ?_⟩
      split_ifs at hNext
      · obtain rfl := Option.some.inj hNext
        exact past_placed front ch rest
      · cases hNext

/-- A round over a token. -/
theorem tokenRound_placed {whole : List Char} (s : List Char × List Char) (h : s.1 ++ s.2 = whole) :
    ∃ next?, tokenRound s = .ok next? ∧
      ∀ next ∈ next?, next.1 ++ next.2 = whole ∧ utf8Size next.2 < utf8Size s.2 := by
  obtain ⟨token, rest⟩ := s
  cases rest with
  | nil => exact ⟨none, rfl, fun next hNext => by cases hNext⟩
  | cons ch rest =>
      rw [tokenRound]
      split
      · exact ⟨none, rfl, fun next hNext => by cases hNext⟩
      · refine ⟨_, rfl, fun next hNext => ?_⟩
        obtain rfl := Option.some.inj hNext
        rw [List.append_assoc]
        exact ⟨h, Nat.lt_add_of_pos_left ch.utf8Size_pos⟩

/-- The look ahead cuts the text only where the keyword ends between two characters. -/
theorem exists_atKeyword (front rest keyword : List Char) :
    ∃ found, (between front rest).atKeyword keyword = .ok found := by
  rw [atKeyword, between, cut_append]
  simp only [bind, Except.bind]
  split
  · exact ⟨false, rfl⟩
  · split
    · next hCut =>
        split
        · simp only [cut, hCut]
          exact ⟨_, rfl⟩
        · exact ⟨false, rfl⟩
    · exact ⟨false, rfl⟩

end Cursor

/-- A round over a number. -/
theorem numberRound_placed {text : List Char} {s : NumberScan} (h : s.cursor.StandsIn text) :
    ∃ next?, numberRound s = .ok next? ∧
      ∀ next ∈ next?, next.cursor.StandsIn text ∧ next.cursor.left < s.cursor.left := by
  obtain ⟨c, hasPoint, digits⟩ := s
  obtain ⟨front, rest, rfl, rfl⟩ := h.exists_between
  cases rest with
  | nil =>
      exact ⟨none, numberRound_nil front hasPoint digits, fun next hNext => by cases hNext⟩
  | cons ch rest =>
      refine ⟨_, numberRound_cons front hasPoint digits ch rest, fun next hNext => ?_⟩
      split_ifs at hNext
      · obtain rfl := Option.some.inj hNext
        exact Cursor.past_placed front ch rest
      · obtain rfl := Option.some.inj hNext
        exact Cursor.past_placed front ch rest
      · cases hNext

/-- A round of splitting. What it cuts off in front of a separator lies in the text. -/
theorem splitRound_placed {text : List Char} {s : Splitting} (h : s.StandsIn text) :
    ∃ next?, splitRound s = .ok next? ∧
      ∀ next ∈ next?, next.StandsIn text ∧ next.cursor.left < s.cursor.left := by
  obtain ⟨c, start, pieces⟩ := s
  obtain ⟨hPieces, before, piece, rest, rfl, rfl, rfl⟩ := h
  cases goesOn (before ++ piece) rest with
  | nothing => exact ⟨none, splitRound_end pieces _ _, fun next hNext => by cases hNext⟩
  | @separator letters rest here =>
      refine ⟨_, splitRound_separator pieces here, fun next hNext => ?_⟩
      obtain rfl := Option.some.inj hNext
      refine ⟨⟨fun cutOff hCutOff => ?_, before ++ piece ++ letters, [], rest, ?_, rfl, ?_⟩,
        Cursor.left_past _ here.ne_nil rest⟩
      · rcases List.mem_append.mp hCutOff with hEarlier | hLast
        · exact hPieces cutOff hEarlier
        · obtain rfl := List.mem_singleton.mp hLast
          exact ⟨before, letters ++ rest, rfl, rfl⟩
      · rw [List.nil_append, List.append_assoc, List.append_assoc]
      · rw [List.append_nil]
  | @char a rest noBreak noAnd =>
      refine ⟨_, splitRound_char pieces _ noBreak noAnd, fun next hNext => ?_⟩
      obtain rfl := Option.some.inj hNext
      refine ⟨⟨hPieces, before, piece ++ [a], rest, ?_, rfl, ?_⟩, Cursor.left_advance _ a rest⟩
      · rw [List.append_assoc, List.singleton_append]
      · rw [List.append_assoc]

/-- The clauses come from the pieces of a splitting and from what is left behind the last. -/
theorem exists_of_cutClauses {text : List Char} {clauses : List Slice}
    (h : cutClauses text = .ok clauses) :
    ∃ s passed last, Reaches splitRound ⟨.start text, 0, []⟩ s ∧ text = passed ++ last ∧
      s.start = utf8Size passed ∧
      clauses = ((s.pieces ++ [Slice.mk s.start last]).map Slice.trim).filter
        fun piece => !piece.text.isEmpty := by
  rw [cutClauses] at h
  simp only [bind, Except.bind] at h
  split at h
  · cases h
  · next s hLoop =>
      split at h
      · cases h
      · next parts hCut =>
          obtain ⟨hText, hStart⟩ := eq_of_cut hCut
          exact ⟨s, parts.1, parts.2, .of_loop hLoop, hText, hStart, (Except.ok.inj h).symm⟩

/-- From every place in a text a cursor goes on unstopped. -/
theorem Cursor.StandsIn.neverStopped {text : List Char} {c : Cursor} (h : c.StandsIn text) :
    c.NeverStopped text := by
  obtain ⟨front, rest, rfl, rfl⟩ := h.exists_between
  have hBlanks := standsIn_past front (rest.takeWhile isBlank) (trimStart rest)
  rw [trimStart, List.takeWhile_append_dropWhile] at hBlanks
  refine
    { position_le := h.boundary.le
      advance := ?_
      keyword := exists_atKeyword front rest
      blanks :=
        ⟨.of_round (fun _ => blankRound_placed) h, _, skipBlanks_between front rest, hBlanks⟩
      digits := .of_round (fun _ => numberRound_placed) h
      number := ?_
      token := ⟨rest, remaining_between front rest, .of_round tokenRound_placed rfl⟩
      ending := ?_ }
  · cases rest with
    | nil =>
        refine ⟨_, ?_, h⟩
        rw [Cursor.advance, peek_between]
        rfl
    | cons ch rest => exact ⟨_, advance_between front ch rest, standsIn_past front [ch] rest⟩
  · obtain ⟨whole, fraction, behind, hSpan⟩ :
        ∃ whole fraction behind, spanDecimal (trimStart rest) = (whole, fraction, behind) :=
      ⟨_, _, _, rfl⟩
    by_cases hDigits : whole.isEmpty = true ∧ fraction.isEmpty = true
    · obtain ⟨rfl, rfl⟩ : whole = [] ∧ fraction = [] := by simpa using hDigits
      exact .inr ⟨_, number_missing front hSpan⟩
    · obtain ⟨scanned, hScanned, hNumber⟩ := number_found front hSpan hDigits
      refine .inl ⟨_, _, hNumber, ?_⟩
      have hNext := standsIn_past (front ++ rest.takeWhile isBlank) scanned behind
      rwa [← hScanned, List.append_assoc, trimStart, List.takeWhile_append_dropWhile] at hNext
  · rw [expectEnd_between]
    split
    · exact .inl rfl
    · exact .inr ⟨_, rfl⟩

/-- Splitting a text and reading it as a clause are never stopped. The clauses cut off are those
of the text and lie in it, reading comes to what reading the characters comes to, and however
far the splitting or a cursor has come, it stands in the text, goes on unstopped, and leaves
less in every round. -/
theorem scans_stay_in_text (text : List Char) :
    (∃ clauses, cutClauses text = .ok clauses ∧ clauses.map Slice.text = splitClauses text ∧
      ∀ clause ∈ clauses, clause.LiesIn text) ∧
    parse text = (Clause.parse text).mapError Stop.rejected ∧
    GoesThrough (Splitting.StandsIn text) (fun s => s.cursor.left) splitRound
      ⟨.start text, 0, []⟩ ∧
    ∀ c : Cursor, c.StandsIn text → c.NeverStopped text := by
  have hStart : Splitting.StandsIn text ⟨.start text, 0, []⟩ :=
    ⟨fun piece hPiece => absurd hPiece List.not_mem_nil, [], [], text, rfl, rfl, rfl⟩
  have hSplit : GoesThrough (Splitting.StandsIn text) (fun s => s.cursor.left) splitRound
      ⟨.start text, 0, []⟩ := .of_round (fun _ => splitRound_placed) hStart
  obtain ⟨spans, hSpans, hClauses⟩ := exists_cutClauses text
  refine ⟨⟨_, hClauses, cutClauses_text hClauses, ?_⟩, parse_eq text, hSplit,
    fun c hc => hc.neverStopped⟩
  obtain ⟨s, passed, last, hReaches, hText, hLast, hPieces⟩ := exists_of_cutClauses hClauses
  rw [hPieces]
  intro clause hClause
  obtain ⟨piece, hPiece, rfl⟩ := List.mem_map.mp (List.mem_filter.mp hClause).1
  refine Slice.LiesIn.trim ?_
  rcases List.mem_append.mp hPiece with hCutOff | hRest
  · exact (hSplit s hReaches).1.pieces piece hCutOff
  · obtain rfl := List.mem_singleton.mp hRest
    exact ⟨passed, [], by rw [hText, List.append_nil], hLast⟩

/-- Three bytes on from the A of this text the look ahead would end inside the last letter. -/
theorem scans_stay_in_text_wide :
    Cursor.StandsIn "π ANλ".toList ⟨"π ANλ".toList, 3⟩ ∧
      Cursor.NeverStopped "π ANλ".toList ⟨"π ANλ".toList, 3⟩ := by
  have hStands : Cursor.StandsIn "π ANλ".toList ⟨"π ANλ".toList, 3⟩ :=
    ⟨rfl, "π ".toList, "ANλ".toList, by decide, by decide⟩
  exact ⟨hStands, (scans_stay_in_text _).2.2.2 _ hStands⟩

end EquityScreen.Query.Scan
