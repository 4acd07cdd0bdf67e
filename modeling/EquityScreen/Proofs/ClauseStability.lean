import EquityScreen.Query.Report
import EquityScreen.Proofs.SeparatorSpans

/-! The clauses of a text are a normal form. Each of them is the only clause of itself, and
put together again they are the clauses of the text that comes out, whatever separates
them there. -/
namespace EquityScreen.Query

open Text

theorem segments_of_no_separator {text : List Char} (h : ∀ s : Span, ¬s.IsSeparator text) :
    segments none text = [text] := by
  obtain ⟨spans, hSpans, hSegments⟩ := exists_separators_segments text
  have hNone : spans = [] :=
    List.eq_nil_iff_forall_not_mem.mpr fun s hs => h s ((hSpans.mem_iff s).mp hs).1
  rw [hSegments, hNone, between, List.drop_zero]

/-- A clause is trimmed, and not empty. -/
theorem trim_of_mem_splitClauses {text clause : List Char} (h : clause ∈ splitClauses text) :
    trim clause = clause ∧ clause.isEmpty = false := by
  obtain ⟨hMem, hSome⟩ := List.mem_filter.mp h
  obtain ⟨segment, -, rfl⟩ := List.mem_map.mp hMem
  exact ⟨trim_trim segment, by simpa using hSome⟩

/-- On its own a clause is its only clause. -/
theorem splitClauses_of_mem {text clause : List Char} (h : clause ∈ splitClauses text) :
    splitClauses clause = [clause] := by
  obtain ⟨hTrim, hSome⟩ := trim_of_mem_splitClauses h
  rw [splitClauses, segments_of_no_separator (not_isSeparator_of_mem_splitClauses h),
    List.map_singleton, hTrim, List.filter_cons_of_pos (by simp [hSome]), List.filter_nil]

/-- Clauses put together in their order, with any joining text between each two. -/
inductive Joined : List (List Char) → List Char → Prop where
  | none : Joined [] []
  | single (clause : List Char) : Joined [clause] clause
  | cons (clause : List Char) {j next text : List Char} {clauses : List (List Char)}
      (joins : Joins j) (joined : Joined (next :: clauses) text) :
      Joined (clause :: next :: clauses) (clause ++ j ++ text)

/-- Texts that are their own only clauses are the clauses of the joined text. Induction on
the joining, from the last clause to the first. -/
theorem Joined.splitClauses_eq {clauses : List (List Char)} {text : List Char}
    (h : Joined clauses text) (hAlone : ∀ clause ∈ clauses, splitClauses clause = [clause]) :
    splitClauses text = clauses := by
  induction h with
  | none => rfl
  | single clause => exact hAlone clause List.mem_cons_self
  | cons clause joins _ ih =>
      obtain ⟨hFirst, hRest⟩ := List.forall_mem_cons.mp hAlone
      rw [splitClauses_join joins, hFirst, ih hRest]
      rfl

/-- Splitting a text into clauses is final: each clause splits into itself alone, and if
the clauses are joined again in any way, the new text has the same clauses and states the
same conditions. -/
theorem clauses_stable (text : List Char) :
    (∀ clause ∈ splitClauses text, splitClauses clause = [clause]) ∧
    ∀ joined, Joined (splitClauses text) joined →
      splitClauses joined = splitClauses text ∧ parse joined = parse text := by
  refine ⟨fun clause => splitClauses_of_mem, fun joined hJoined => ?_⟩
  have hClauses : splitClauses joined = splitClauses text :=
    hJoined.splitClauses_eq fun clause => splitClauses_of_mem
  exact ⟨hClauses, by rw [parse, parse, hClauses]⟩

/-- Two clauses that words with the letters of AND end and begin, joined by another word. -/
theorem clauses_stable_words :
    let text := "and roe > sand\r\nandy = 3 AND".toList
    let joined := "roe > sand aNd andy = 3".toList
    Joined (splitClauses text) joined ∧
      splitClauses joined = splitClauses text ∧ parse joined = parse text := by
  intro text joined
  have hClauses : splitClauses text = ["roe > sand".toList, "andy = 3".toList] := by
    decide +kernel
  have hJoined : Joined (splitClauses text) joined := by
    rw [hClauses]
    exact .cons "roe > sand".toList (.word (by decide)) (.single "andy = 3".toList)
  exact ⟨hJoined, (clauses_stable text).2 joined hJoined⟩

end EquityScreen.Query
