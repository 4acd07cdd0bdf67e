import EquityScreen.Proofs.ClauseSplitting
import Mathlib.Data.List.Basic

/-! What separates two clauses: line breaks, the word AND between white space, and any
mixture of the two. Whatever separator stands between two texts, the clauses of the
first are followed by those of the second. -/
namespace EquityScreen.Text

/-- The code points of some ranges, one by one. -/
def codePoints (ranges : List (Nat × Nat)) : List Nat :=
  ranges.flatMap fun r => List.range' r.1 (r.2 + 1 - r.1)

theorem mem_codePoints {ranges : List (Nat × Nat)} {c : Char} (h : inRanges ranges c = true) :
    c.toNat ∈ codePoints ranges := by
  obtain ⟨r, hr, hWithin⟩ := List.any_eq_true.mp h
  rw [Bool.and_eq_true, decide_eq_true_eq, decide_eq_true_eq] at hWithin
  refine List.mem_flatMap.mpr ⟨r, hr, List.mem_range'_1.mpr ?_⟩
  omega

/-- White space is few characters, so that a fact about all of it is checked one
character at a time. -/
theorem forall_blank (p : Char → Bool)
    (h : ((codePoints blankRanges).all fun n => p (Char.ofNat n)) = true) {c : Char}
    (hBlank : isBlank c = true) : p c = true := by
  have hThis := List.all_eq_true.mp h c.toNat (mem_codePoints hBlank)
  rwa [Char.ofNat_toNat] at hThis

end EquityScreen.Text

namespace EquityScreen.Query

open Text

theorem isWordChar_of_isBlank {c : Char} (h : isBlank c = true) : isWordChar c = false := by
  have hNot : (!isWordChar c) = true := forall_blank (!isWordChar ·) (by decide +kernel) h
  rwa [Bool.not_eq_true'] at hNot

theorem isBlank_of_isLineBreak {c : Char} (h : isLineBreak c = true) : isBlank c = true := by
  rw [isLineBreak, Bool.or_eq_true, beq_iff_eq, beq_iff_eq] at h
  rcases h with rfl | rfl <;> decide

/-- Where no word touches a text, the text splits as it does on its own. -/
theorem segments_start {before : Option Char} (h : before.any isWordChar = false)
    (text : List Char) : segments before text = segments none text :=
  segments_before (h.trans rfl) text

/-- A blank either ends a segment or grows the one that it stands in front of. -/
theorem segments_blank (before : Option Char) {c : Char} (hBlank : isBlank c = true)
    (rest : List Char) :
    segments before (c :: rest) =
      if isLineBreak c then [] :: segments none rest else consSegment c (segments none rest) := by
  have hWord := isWordChar_of_isBlank hBlank
  have hStart : segments (some c) rest = segments none rest := by
    rw [segments_start]
    exact hWord
  split
  · next hBreak => rw [segments_lineBreak before rest hBreak, hStart]
  · next hBreak =>
      have hAnd : startsWithAnd before (c :: rest) = false := by
        match rest with
        | [] => rfl
        | [n] => rfl
        | n :: d :: after => exact not_isSeparateAnd (.inl hWord)
      rw [segments_char (Bool.not_eq_true _ ▸ hBreak) hAnd, hStart]

theorem splitClauses_blank_append {blank : List Char} (hBlank : AllBlank blank)
    (text : List Char) : splitClauses (blank ++ text) = splitClauses text := by
  induction blank with
  | nil => rfl
  | cons c blank ih =>
      have hHead := hBlank c List.mem_cons_self
      have hTail := ih fun x hx => hBlank x (List.mem_cons_of_mem c hx)
      rw [← hTail, splitClauses_eq, List.cons_append, segments_blank none hHead]
      split
      · rfl
      · exact clausesOf_consSegment hHead (segments_ne_nil _ _)

/-- The word AND in some case, and the white space after it. -/
structure AndWord where
  word : List Char
  blank : List Char
  spelled : sameIgnoringAsciiCase word ['A', 'N', 'D'] = true
  allBlank : AllBlank blank
  nonempty : blank ≠ []

def AndWord.text (w : AndWord) : List Char := w.word ++ w.blank

/-- White space, then the word AND any number of times. Without the word there is a
line break in the white space. -/
structure Separator where
  blank : List Char
  words : List AndWord
  allBlank : AllBlank blank
  nonempty : blank ≠ []
  separates : words ≠ [] ∨ ∃ c ∈ blank, isLineBreak c = true

def Separator.text (s : Separator) : List Char := s.blank ++ s.words.flatMap AndWord.text

/-- Line breaks alone separate. -/
def Separator.lineBreaks (breaks : List Char) (hAll : ∀ c ∈ breaks, isLineBreak c = true)
    (hSome : breaks ≠ []) : Separator where
  blank := breaks
  words := []
  allBlank c hc := isBlank_of_isLineBreak (hAll c hc)
  nonempty := hSome
  separates := by
    obtain ⟨c, hc⟩ := List.exists_mem_of_ne_nil breaks hSome
    exact .inr ⟨c, hc, hAll c hc⟩

/-- A separate AND ends a segment, and the white space after it opens the next. -/
theorem AndWord.segments_append (w : AndWord) {before : Option Char}
    (hBefore : before.any isWordChar = false) (rest : List Char) :
    segments before (w.text ++ rest) = [] :: segments none (w.blank ++ rest) := by
  obtain ⟨word, blank, hSpelled, hBlank, hSome⟩ := w
  have hLength : word.length = 3 := by
    simpa using congrArg List.length (beq_iff_eq.mp hSpelled)
  obtain ⟨a, n, d, rfl⟩ := List.length_eq_three.mp hLength
  obtain ⟨c, blank, rfl⟩ := List.exists_cons_of_ne_nil hSome
  have hHead := hBlank c List.mem_cons_self
  have hAnd : isSeparateAnd before a n d (some c) = true := by
    rw [isSeparateAnd, hBefore, hSpelled, Option.any_some, isWordChar_of_isBlank hHead]
    rfl
  have hSegments : segments before (a :: n :: d :: c :: (blank ++ rest)) =
      [] :: segments (some d) (c :: (blank ++ rest)) :=
    segments_and hAnd
  rw [segments_blank _ hHead] at hSegments
  rw [List.cons_append, segments_blank none hHead]
  exact hSegments

/-- White space and separate words before a text belong to no clause of it. -/
theorem splitClauses_words_append (words : List AndWord) {blank : List Char}
    (hBlank : AllBlank blank) (text : List Char) :
    splitClauses (blank ++ (words.flatMap AndWord.text ++ text)) = splitClauses text := by
  rw [splitClauses_blank_append hBlank]
  induction words with
  | nil => rfl
  | cons w words ih =>
      rw [List.flatMap_cons, List.append_assoc, splitClauses_eq, w.segments_append rfl,
        clausesOf_empty, ← splitClauses_eq, splitClauses_blank_append w.allBlank, ih]

/-- A separator closes the clause before it and opens the one after it. Induction on
the white space at its front, up to the first line break or word. -/
theorem exists_segments_separator {blank : List Char} {words : List AndWord}
    (hBlank : AllBlank blank) (hSeparates : words ≠ [] ∨ ∃ c ∈ blank, isLineBreak c = true)
    {before : Option Char} (hBefore : blank = [] → before.any isWordChar = false)
    (text : List Char) :
    ∃ b bs, AllBlank b ∧
      segments before (blank ++ (words.flatMap AndWord.text ++ text)) = b :: bs ∧
      clausesOf bs = splitClauses text := by
  have hEmpty : AllBlank [] := fun _ h => absurd h List.not_mem_nil
  have hNone {p : Prop} (_ : p) : (none : Option Char).any isWordChar = false := rfl
  induction blank generalizing before with
  | nil =>
      cases words with
      | nil => simp at hSeparates
      | cons w words =>
          refine ⟨[], segments none (w.blank ++ (words.flatMap AndWord.text ++ text)), hEmpty,
            ?_, splitClauses_words_append words w.allBlank text⟩
          rw [List.nil_append, List.flatMap_cons, List.append_assoc,
            w.segments_append (hBefore rfl)]
  | cons c blank ih =>
      have hHead := hBlank c List.mem_cons_self
      have hTail : AllBlank blank := fun x hx => hBlank x (List.mem_cons_of_mem c hx)
      rw [List.cons_append, segments_blank before hHead]
      split
      · exact ⟨[], _, hEmpty, rfl, splitClauses_words_append words hTail text⟩
      · next hBreak =>
          have hSeparates' : words ≠ [] ∨ ∃ c ∈ blank, isLineBreak c = true := by
            simpa [hBreak] using hSeparates
          obtain ⟨b, bs, hb, hSegments, hClauses⟩ := ih hTail hSeparates' hNone
          refine ⟨c :: b, bs, List.forall_mem_cons.mpr ⟨hHead, hb⟩, ?_, hClauses⟩
          rw [hSegments, consSegment]

/-- Texts with a separator between them have the clauses of the first and then those
of the second. -/
theorem splitClauses_separator (s : Separator) (first second : List Char) :
    splitClauses (first ++ s.text ++ second) = splitClauses first ++ splitClauses second := by
  obtain ⟨blank, words, hBlank, hSome, hSeparates⟩ := s
  have hSeam : (blank ++ (words.flatMap AndWord.text ++ second)).head?.any isWordChar = false := by
    cases blank with
    | nil => exact absurd rfl hSome
    | cons c blank => exact isWordChar_of_isBlank (hBlank c List.mem_cons_self)
  have hBefore : blank = [] → (lastChar none first).any isWordChar = false :=
    fun h => absurd h hSome
  obtain ⟨b, bs, hb, hSegments, hClauses⟩ :=
    exists_segments_separator hBlank hSeparates hBefore second
  rw [Separator.text, List.append_assoc, List.append_assoc, splitClauses_eq,
    Query.segments_append hSeam, hSegments, clausesOf_meet hb (segments_ne_nil _ _), hClauses,
    splitClauses_eq first]

/-- The texts that join two queries into one. -/
inductive Joins : List Char → Prop where
  | lineFeed : Joins ['\n']
  | carriageReturn : Joins ['\r']
  | lineBreak : Joins ['\r', '\n']
  | word {a n d : Char} (letters : sameIgnoringAsciiCase [a, n, d] ['A', 'N', 'D'] = true) :
      Joins [' ', a, n, d, ' ']

/-- A joining text is a separator. -/
theorem Joins.exists_separator {j : List Char} (hJoin : Joins j) :
    ∃ s : Separator, s.text = j := by
  have hBreaks (breaks : List Char) (hAll : ∀ c ∈ breaks, isLineBreak c = true)
      (hSome : breaks ≠ []) : ∃ s : Separator, s.text = breaks :=
    ⟨.lineBreaks breaks hAll hSome, List.append_nil breaks⟩
  cases hJoin with
  | lineFeed => exact hBreaks ['\n'] (List.all_eq_true.mp (by decide)) (by decide)
  | carriageReturn => exact hBreaks ['\r'] (List.all_eq_true.mp (by decide)) (by decide)
  | lineBreak => exact hBreaks ['\r', '\n'] (List.all_eq_true.mp (by decide)) (by decide)
  | @word a n d letters =>
      have hBlank : AllBlank [' '] := by simp [AllBlank, show isBlank ' ' = true by decide]
      exact ⟨⟨[' '], [⟨[a, n, d], [' '], letters, hBlank, by decide⟩], hBlank, by decide,
        .inl (List.cons_ne_nil _ _)⟩, rfl⟩

/-- Joined texts have the clauses of the first and then those of the second. -/
theorem splitClauses_join {j : List Char} (hJoin : Joins j) (first second : List Char) :
    splitClauses (first ++ j ++ second) = splitClauses first ++ splitClauses second := by
  obtain ⟨s, rfl⟩ := hJoin.exists_separator
  exact splitClauses_separator s first second

end EquityScreen.Query
