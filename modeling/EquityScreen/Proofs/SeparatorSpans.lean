import EquityScreen.Proofs.Separators

/-! Where the separators of a text stand. Whether there is one at a place depends on the
characters there and on the two around them alone, and no two of them overlap. The
splitter takes the first one it meets, goes on behind it, and so finds each of them. -/
namespace EquityScreen.Query

open Text

/-- A stretch of a text. -/
structure Span where
  start : Nat
  length : Nat
deriving DecidableEq, Repr

namespace Span

/-- The place right behind a span. -/
def stop (s : Span) : Nat := s.start + s.length

/-- The characters of a text in a span. -/
def slice (text : List Char) (s : Span) : List Char := (text.drop s.start).take s.length

end Span

/-- What separates clauses where it stands between two texts: a line break anywhere, and
the word AND in any ASCII case where no word character touches it. -/
inductive Separates (front back : List Char) : List Char → Prop where
  | lineBreak {c : Char} (breaks : isLineBreak c = true) : Separates front back [c]
  | word {letters : List Char}
      (spelled : sameIgnoringAsciiCase letters ['A', 'N', 'D'] = true)
      (opens : front.getLast?.any isWordChar = false)
      (closes : back.head?.any isWordChar = false) : Separates front back letters

/-- A span of a text holds a separator. -/
def Span.IsSeparator (text : List Char) (s : Span) : Prop :=
  ∃ front letters back, text = front ++ (letters ++ back) ∧
    s = ⟨front.length, letters.length⟩ ∧ Separates front back letters

/-- The texts in front of, between and behind spans, from a place on. -/
def between (text : List Char) (start : Nat) : List Span → List (List Char)
  | [] => [text.drop start]
  | s :: spans => (text.drop start).take (s.start - start) :: between text s.stop spans

/-- Two lists of texts in turn, as one text. -/
def weave : List (List Char) → List (List Char) → List Char
  | a :: as, b :: bs => a ++ (b ++ weave as bs)
  | as, [] => as.flatten
  | [], bs => bs.flatten

/-! What a separator looks like, and what it looks like from outside. -/

/-- The word AND is three characters that words can hold. -/
theorem exists_letters {letters : List Char}
    (h : sameIgnoringAsciiCase letters ['A', 'N', 'D'] = true) :
    ∃ a n d, letters = [a, n, d] ∧
      isWordChar a = true ∧ isWordChar n = true ∧ isWordChar d = true := by
  have hLength : letters.length = 3 := by
    simpa using congrArg List.length (beq_iff_eq.mp h)
  obtain ⟨a, n, d, rfl⟩ := List.length_eq_three.mp hLength
  have hAnd : isSeparateAnd none a n d none = true := by
    rw [isSeparateAnd, h]
    rfl
  exact ⟨a, n, d, rfl, isWordChar_of_isSeparateAnd hAnd⟩

/-- No word runs from one text into the next. -/
def Seam (first second : List Char) : Prop :=
  first.getLast?.any isWordChar = false ∨ second.head?.any isWordChar = false

namespace Separates

variable {front back letters : List Char}

theorem ne_nil (h : Separates front back letters) : letters ≠ [] := by
  cases h with
  | lineBreak => exact List.cons_ne_nil _ _
  | word spelled =>
      obtain ⟨a, n, d, rfl, -⟩ := exists_letters spelled
      exact List.cons_ne_nil _ _

theorem length_pos (h : Separates front back letters) : 0 < letters.length :=
  List.length_pos_iff.mpr h.ne_nil

/-- Separators that begin with the same character have the same length. -/
theorem length_eq {front' back' letters' : List Char} (h : Separates front back letters)
    (h' : Separates front' back' letters') (hHead : letters.head? = letters'.head?) :
    letters.length = letters'.length := by
  have hOther {c a : Char} {rest : List Char} (hBreak : isLineBreak c = true)
      (hWord : isWordChar a = true) : [c].head? ≠ (a :: rest).head? := by
    rintro hSame
    obtain rfl : c = a := Option.some.inj hSame
    rw [isWordChar_of_isLineBreak hBreak] at hWord
    cases hWord
  cases h with
  | lineBreak breaks =>
      cases h' with
      | lineBreak => rfl
      | word spelled =>
          obtain ⟨a, n, d, rfl, hWord, -⟩ := exists_letters spelled
          exact absurd hHead (hOther breaks hWord)
  | word spelled =>
      obtain ⟨a, n, d, rfl, hWord, -⟩ := exists_letters spelled
      cases h' with
      | lineBreak breaks => exact absurd hHead.symm (hOther breaks hWord)
      | word spelled' =>
          obtain ⟨a', n', d', rfl, -⟩ := exists_letters spelled'
          rfl

theorem seam_front (h : Separates front back letters) : Seam front (letters ++ back) := by
  cases h with
  | lineBreak breaks => exact .inr (isWordChar_of_isLineBreak breaks)
  | word _ opens => exact .inl opens

theorem seam_back (h : Separates front back letters) : Seam (front ++ letters) back := by
  cases h with
  | lineBreak breaks =>
      refine .inl ?_
      rw [List.getLast?_append_of_ne_nil _ (List.cons_ne_nil _ _)]
      exact isWordChar_of_isLineBreak breaks
  | word _ _ closes => exact .inr closes

/-- A separator that is cut in two is the word, so that no separator begins inside. -/
theorem not_inside {first second back' letters' rest : List Char}
    (h : Separates front back (first ++ second)) (hFirst : first ≠ []) (hSecond : second ≠ [])
    (h' : Separates (front ++ first) back' letters')
    (hSame : second ++ rest = letters' ++ back') : False := by
  have hWords : (∀ c ∈ first, isWordChar c = true) ∧ ∀ c ∈ second, isWordChar c = true := by
    rw [← List.forall_mem_append]
    generalize hLetters : first ++ second = letters at h
    cases h with
    | lineBreak =>
        have hLength := congrArg List.length hLetters
        have hPos := List.length_pos_iff.mpr hFirst
        have hPos' := List.length_pos_iff.mpr hSecond
        simp only [List.length_append, List.length_singleton] at hLength
        omega
    | word spelled =>
        obtain ⟨a, n, d, rfl, hLetter⟩ := exists_letters spelled
        simpa using hLetter
  cases h' with
  | @lineBreak c breaks =>
      obtain ⟨a, second, rfl⟩ := List.exists_cons_of_ne_nil hSecond
      obtain rfl : a = c := (List.cons.inj hSame).1
      have hWord := hWords.2 a List.mem_cons_self
      rw [isWordChar_of_isLineBreak breaks] at hWord
      cases hWord
  | word _ opens =>
      rw [List.getLast?_append_of_ne_nil _ hFirst, List.getLast?_eq_getLast_of_ne_nil hFirst,
        Option.any_some, hWords.1 _ (List.getLast_mem hFirst)] at opens
      cases opens

end Separates

namespace Span.IsSeparator

variable {text : List Char} {s t : Span}

/-- One separator is over before the next begins. -/
theorem stop_le (hs : s.IsSeparator text) (ht : t.IsSeparator text) (h : s.start < t.start) :
    s.stop ≤ t.start := by
  obtain ⟨front, letters, back, hText, rfl, hSep⟩ := hs
  obtain ⟨front', letters', back', hText', rfl, hSep'⟩ := ht
  by_contra hInside
  simp only [Span.stop, not_le] at h hInside
  rw [hText, List.append_eq_append_iff] at hText'
  obtain ⟨first, hFront, hRest⟩ | ⟨first, hFront, -⟩ := hText'
  · rw [List.append_eq_append_iff] at hRest
    obtain ⟨gap, hFirst, -⟩ | ⟨second, hLetters, hSame⟩ := hRest
    · rw [hFront, hFirst] at hInside
      simp only [List.length_append] at hInside
      omega
    · rw [hFront] at h hInside hSep'
      rw [hLetters] at hInside hSep
      simp only [List.length_append] at h hInside
      exact hSep.not_inside (List.length_pos_iff.mp (by omega))
        (List.length_pos_iff.mp (by omega)) hSep' hSame.symm
  · rw [hFront, List.length_append] at h
    omega

/-- A place holds one separator at most. -/
theorem eq_of_start (hs : s.IsSeparator text) (ht : t.IsSeparator text)
    (h : s.start = t.start) : s = t := by
  obtain ⟨front, letters, back, hText, rfl, hSep⟩ := hs
  obtain ⟨front', letters', back', hText', rfl, hSep'⟩ := ht
  have hFront : front.length = front'.length := h
  obtain ⟨rfl, hRest⟩ := List.append_inj (hText.symm.trans hText') hFront
  have hHead := congrArg List.head? hRest
  rw [List.head?_append_of_ne_nil _ hSep.ne_nil, List.head?_append_of_ne_nil _ hSep'.ne_nil]
    at hHead
  rw [hSep.length_eq hSep' hHead]

theorem lt_stop (hs : s.IsSeparator text) : s.start < s.stop := by
  obtain ⟨front, letters, back, -, rfl, hSep⟩ := hs
  exact Nat.lt_add_of_pos_right hSep.length_pos

theorem stop_le_length (hs : s.IsSeparator text) : s.stop ≤ text.length := by
  obtain ⟨front, letters, back, rfl, rfl, -⟩ := hs
  simp only [Span.stop, List.length_append]
  omega

/-- No word runs across either end of a separator. -/
theorem seams (hs : s.IsSeparator text) :
    Seam (text.take s.start) (text.drop s.start) ∧ Seam (text.take s.stop) (text.drop s.stop) := by
  obtain ⟨front, letters, back, rfl, rfl, hSep⟩ := hs
  have hStop : (⟨front.length, letters.length⟩ : Span).stop = (front ++ letters).length :=
    List.length_append.symm
  constructor
  · rw [List.take_left, List.drop_left]
    exact hSep.seam_front
  · rw [hStop, ← List.append_assoc, List.take_left, List.drop_left]
    exact hSep.seam_back

end Span.IsSeparator

/-! The scan from left to right. -/

/-- The separators of a text from a place on, in their order. -/
structure Separators (text : List Char) (start : Nat) (spans : List Span) : Prop where
  mem_iff : ∀ s, s ∈ spans ↔ s.IsSeparator text ∧ start ≤ s.start
  apart : spans.Pairwise fun s t => s.stop ≤ t.start

namespace Separators

variable {text : List Char} {start length : Nat} {spans : List Span}

theorem none_at_end (text : List Char) : Separators text text.length [] where
  mem_iff s := by
    refine ⟨fun h => absurd h List.not_mem_nil, fun ⟨hSep, hStart⟩ => ?_⟩
    have hStop := hSep.lt_stop
    have hEnd := hSep.stop_le_length
    omega
  apart := .nil

/-- A separator in front of those from its end on. Nothing begins inside it. -/
theorem cons (hSep : (⟨start, length⟩ : Span).IsSeparator text)
    (h : Separators text (start + length) spans) :
    Separators text start (⟨start, length⟩ :: spans) where
  mem_iff s := by
    rw [List.mem_cons, h.mem_iff]
    constructor
    · rintro (rfl | ⟨hs, hStart⟩)
      · exact ⟨hSep, Nat.le_refl _⟩
      · exact ⟨hs, Nat.le_of_add_right_le hStart⟩
    · rintro ⟨hs, hStart⟩
      rcases Nat.eq_or_lt_of_le hStart with hHere | hBehind
      · exact .inl (hs.eq_of_start hSep hHere.symm)
      · exact .inr ⟨hs, hSep.stop_le hs hBehind⟩
  apart := List.pairwise_cons.mpr ⟨fun s hs => ((h.mem_iff s).mp hs).2, h.apart⟩

theorem tail {s : Span} (h : Separators text start (s :: spans)) :
    Separators text s.stop spans where
  mem_iff t := by
    have hApart := (List.pairwise_cons.mp h.apart).1
    obtain ⟨hSep, hStart⟩ := (h.mem_iff s).mp List.mem_cons_self
    constructor
    · intro ht
      exact ⟨((h.mem_iff t).mp (List.mem_cons_of_mem s ht)).1, hApart t ht⟩
    · rintro ⟨ht, hBehind⟩
      have hPos := hSep.lt_stop
      rcases List.mem_cons.mp ((h.mem_iff t).mpr ⟨ht, by omega⟩) with rfl | hMem
      · omega
      · exact hMem
  apart := (List.pairwise_cons.mp h.apart).2

/-- A text has one list of separators. -/
theorem unique {spans' : List Span} (h : Separators text start spans)
    (h' : Separators text start spans') : spans = spans' := by
  induction spans generalizing start spans' with
  | nil =>
      refine (List.eq_nil_iff_forall_not_mem.mpr fun s hs => ?_).symm
      exact absurd ((h.mem_iff s).mpr ((h'.mem_iff s).mp hs)) List.not_mem_nil
  | cons s spans ih =>
      have hs := (h.mem_iff s).mp List.mem_cons_self
      cases spans' with
      | nil => exact absurd ((h'.mem_iff s).mpr hs) List.not_mem_nil
      | cons t spans' =>
          have ht := (h'.mem_iff t).mp List.mem_cons_self
          -- If the first ones differed, each would lie behind the other.
          have hFirst : s = t := by
            rcases List.mem_cons.mp ((h'.mem_iff s).mpr hs) with hSame | hLater
            · exact hSame
            rcases List.mem_cons.mp ((h.mem_iff t).mpr ht) with hSame | hLater'
            · exact hSame.symm
            have hBehind := (List.pairwise_cons.mp h'.apart).1 s hLater
            have hBehind' := (List.pairwise_cons.mp h.apart).1 t hLater'
            have hs := hs.1.lt_stop
            have ht := ht.1.lt_stop
            omega
          subst hFirst
          rw [ih h.tail h'.tail]

/-- A place without a separator is passed over. -/
theorem skip (hNone : ∀ length, ¬(⟨start, length⟩ : Span).IsSeparator text)
    (h : Separators text (start + 1) spans) : Separators text start spans where
  mem_iff s := by
    rw [h.mem_iff]
    refine and_congr_right fun hs => ⟨Nat.le_of_succ_le, fun hStart => ?_⟩
    rcases Nat.eq_or_lt_of_le hStart with rfl | hBehind
    · exact absurd hs (hNone s.length)
    · exact hBehind
  apart := h.apart

end Separators

/-- The three characters that the splitter stops at are a separator. -/
theorem separates_of_isSeparateAnd {front back : List Char} {a n d : Char}
    (h : isSeparateAnd front.getLast? a n d back.head? = true) :
    Separates front back [a, n, d] := by
  rw [isSeparateAnd, Bool.and_eq_true, Bool.and_eq_true, Bool.not_eq_true',
    Bool.not_eq_true'] at h
  obtain ⟨⟨hOpens, hSpelled⟩, hCloses⟩ := h
  exact .word hSpelled hOpens hCloses

/-- Where a separator stands, a segment ends. -/
theorem Separates.segments {front back letters : List Char} (h : Separates front back letters) :
    segments front.getLast? (letters ++ back) =
      [] :: segments (front ++ letters).getLast? back := by
  cases h with
  | @lineBreak c breaks =>
      rw [List.getLast?_concat]
      exact segments_lineBreak _ back breaks
  | word spelled opens closes =>
      obtain ⟨a, n, d, rfl, -⟩ := exists_letters spelled
      have hAnd : isSeparateAnd front.getLast? a n d back.head? = true := by
        rw [isSeparateAnd, spelled, opens, closes]
        rfl
      rw [List.getLast?_append_cons]
      exact segments_and hAnd

/-- What a text goes on with behind a place: nothing, a separator, or a character that begins
none. -/
inductive GoesOn (front : List Char) : List Char → Prop where
  | nothing : GoesOn front []
  | separator {letters rest : List Char} (here : Separates front rest letters) :
      GoesOn front (letters ++ rest)
  | char {a : Char} {rest : List Char} (noBreak : isLineBreak a = false)
      (noAnd : startsWithAnd front.getLast? (a :: rest) = false) : GoesOn front (a :: rest)

theorem goesOn (front rest : List Char) : GoesOn front rest := by
  cases rest with
  | nil => exact .nothing
  | cons a rest =>
      by_cases hBreak : isLineBreak a = true
      · exact .separator (.lineBreak hBreak)
      rw [Bool.not_eq_true] at hBreak
      by_cases hAnd : startsWithAnd front.getLast? (a :: rest) = true
      · obtain ⟨n, d, back, rfl, hSeparate⟩ := exists_of_startsWithAnd hAnd
        exact .separator (separates_of_isSeparateAnd hSeparate)
      · rw [Bool.not_eq_true] at hAnd
        exact .char hBreak hAnd

/-- Going through a text from left to right, one separator or one other character at a time:
what holds at the end of a text, and in front of each of these whenever it holds behind it,
holds at every place. -/
theorem separator_induction {motive : List Char → List Char → Prop}
    (nil : ∀ front, motive front [])
    (separator : ∀ {front letters rest}, Separates front rest letters →
      motive (front ++ letters) rest → motive front (letters ++ rest))
    (char : ∀ {front a rest}, isLineBreak a = false →
      startsWithAnd front.getLast? (a :: rest) = false →
      motive (front ++ [a]) rest → motive front (a :: rest))
    (front rest : List Char) : motive front rest := by
  induction hLength : rest.length using Nat.strong_induction_on generalizing front rest with
  | _ length ih =>
      subst hLength
      cases goesOn front rest with
      | nothing => exact nil front
      | separator here =>
          refine separator here (ih _ ?_ _ _ rfl)
          rw [List.length_append]
          exact Nat.lt_add_of_pos_left here.length_pos
      | char noBreak noAnd =>
          exact char noBreak noAnd (ih _ (Nat.lt_succ_self _) _ _ rfl)

/-- The splitter stops wherever there is a separator. -/
theorem Span.IsSeparator.stops {front rest : List Char} {length : Nat}
    (h : (⟨front.length, length⟩ : Span).IsSeparator (front ++ rest)) :
    rest.head?.any isLineBreak = true ∨ startsWithAnd front.getLast? rest = true := by
  obtain ⟨front', letters, back, hText, hSpan, hSep⟩ := h
  obtain ⟨hFront, rfl⟩ := Span.mk.inj hSpan
  obtain ⟨rfl, rfl⟩ := List.append_inj hText hFront
  cases hSep with
  | lineBreak breaks => exact .inl breaks
  | word spelled opens closes =>
      obtain ⟨a, n, d, rfl, -⟩ := exists_letters spelled
      refine .inr ?_
      change isSeparateAnd front.getLast? a n d back.head? = true
      rw [isSeparateAnd, spelled, opens, closes]
      rfl

/-- No separator stands where the splitter goes past a character. -/
theorem not_isSeparator_of_char {front rest : List Char} {a : Char} (hBreak : isLineBreak a = false)
    (hAnd : startsWithAnd front.getLast? (a :: rest) = false) (length : Nat) :
    ¬(⟨front.length, length⟩ : Span).IsSeparator (front ++ a :: rest) := by
  intro hSep
  rcases hSep.stops with hHead | hStarts
  · rw [List.head?_cons, Option.any_some, hBreak] at hHead
    cases hHead
  · rw [hAnd] at hStarts
    cases hStarts

/-- A character in front of the first segment moves its beginning by one. -/
theorem consSegment_between {front : List Char} {a : Char} {rest : List Char} {spans : List Span}
    (h : ∀ s ∈ spans, front.length + 1 ≤ s.start) :
    consSegment a (between (front ++ a :: rest) (front.length + 1) spans) =
      between (front ++ a :: rest) front.length spans := by
  have hHere : (front ++ a :: rest).drop front.length = a :: rest := List.drop_left
  have hNext : (front ++ a :: rest).drop (front.length + 1) = rest := by
    rw [← List.drop_drop, hHere, List.drop_one, List.tail_cons]
  cases spans with
  | nil => rw [between, between, hHere, hNext, consSegment]
  | cons s spans =>
      have hStart := h s List.mem_cons_self
      obtain ⟨k, hStart⟩ := Nat.exists_eq_add_of_le hStart
      have hShort : s.start - (front.length + 1) = k := by omega
      have hLong : s.start - front.length = k + 1 := by omega
      rw [between, between, hHere, hNext, consSegment, hShort, hLong, List.take_succ_cons]

/-- The splitter cuts what is left behind a place at all separators there. -/
def CutsAll (front rest : List Char) : Prop :=
  ∃ spans, Separators (front ++ rest) front.length spans ∧
    segments front.getLast? rest = between (front ++ rest) front.length spans

namespace CutsAll

variable {front rest : List Char}

theorem nil (front : List Char) : CutsAll front [] := by
  refine ⟨[], ?_, ?_⟩
  · rw [List.append_nil]
    exact .none_at_end front
  · rw [between, List.drop_left]
    rfl

/-- A separator ends a segment, and the splitter goes on behind it. -/
theorem separator {letters : List Char} (hSep : Separates front rest letters)
    (h : CutsAll (front ++ letters) rest) : CutsAll front (letters ++ rest) := by
  obtain ⟨spans, hSpans, hSegments⟩ := h
  rw [List.append_assoc, List.length_append] at hSpans hSegments
  refine ⟨⟨front.length, letters.length⟩ :: spans, hSpans.cons ?_, ?_⟩
  · exact ⟨front, letters, rest, rfl, rfl, hSep⟩
  · rw [hSep.segments, hSegments, between, Nat.sub_self]
    rfl

/-- Any other character belongs to the segment that goes on behind it. -/
theorem char {a : Char} (hBreak : isLineBreak a = false)
    (hAnd : startsWithAnd front.getLast? (a :: rest) = false)
    (h : CutsAll (front ++ [a]) rest) : CutsAll front (a :: rest) := by
  obtain ⟨spans, hSpans, hSegments⟩ := h
  simp only [List.append_assoc, List.cons_append, List.nil_append, List.length_append,
    List.length_singleton, List.getLast?_concat] at hSpans hSegments
  refine ⟨spans, hSpans.skip (not_isSeparator_of_char hBreak hAnd), ?_⟩
  rw [segments_char hBreak hAnd, hSegments]
  exact consSegment_between fun s hs => ((hSpans.mem_iff s).mp hs).2

end CutsAll

/-- The splitter cuts a text at all of its separators. -/
theorem cutsAll (front rest : List Char) : CutsAll front rest :=
  separator_induction CutsAll.nil (fun hSep => CutsAll.separator hSep) CutsAll.char front rest

/-- What lies behind a place, cut at a later one. -/
theorem take_append_drop_later (text : List Char) {start stop : Nat} (h : start ≤ stop) :
    (text.drop start).take (stop - start) ++ text.drop stop = text.drop start := by
  have hCut := List.take_append_drop (stop - start) (text.drop start)
  rwa [List.drop_drop, Nat.add_sub_cancel' h] at hCut

/-- Spans that lie apart and the texts between them make up the whole text. -/
theorem weave_between {text : List Char} {spans : List Span} {start : Nat}
    (hStart : ∀ s ∈ spans, start ≤ s.start) (hApart : spans.Pairwise fun s t => s.stop ≤ t.start) :
    weave (between text start spans) (spans.map (Span.slice text)) = text.drop start := by
  induction spans generalizing start with
  | nil => simp [between, weave]
  | cons s spans ih =>
      obtain ⟨hBehind, hApart⟩ := List.pairwise_cons.mp hApart
      have hSlice : s.slice text ++ text.drop s.stop = text.drop s.start := by
        rw [Span.slice, Span.stop, ← List.drop_drop, List.take_append_drop]
      rw [between, List.map_cons, weave, ih hBehind hApart, hSlice,
        take_append_drop_later text (hStart s List.mem_cons_self)]

/-! What lies between two separators holds none, nor does what is left of it when it is
trimmed: a clause begins and ends where no word runs on. -/

/-- A piece of a text, with what stands in front of it and behind it. No word runs across
its ends, and no separator of the text begins in it. -/
structure Unbroken (front piece back : List Char) : Prop where
  opens : Seam front (piece ++ back)
  closes : Seam (front ++ piece) back
  no_separator : ∀ s : Span, s.IsSeparator (front ++ (piece ++ back)) → front.length ≤ s.start →
    front.length + piece.length ≤ s.start

theorem seam_of_blank_end {first blank second : List Char} (hBlank : AllBlank blank)
    (hSome : blank ≠ []) : Seam (first ++ blank) second := by
  refine .inl ?_
  rw [List.getLast?_append_of_ne_nil _ hSome, List.getLast?_eq_getLast_of_ne_nil hSome]
  exact isWordChar_of_isBlank (hBlank _ (List.getLast_mem hSome))

theorem seam_of_blank_start {first blank second : List Char} (hBlank : AllBlank blank)
    (hSome : blank ≠ []) : Seam first (blank ++ second) := by
  obtain ⟨c, blank, rfl⟩ := List.exists_cons_of_ne_nil hSome
  exact .inr (isWordChar_of_isBlank (hBlank c List.mem_cons_self))

namespace Unbroken

variable {front piece back : List Char}

/-- White space may be taken off either end. -/
theorem of_blanks {before after : List Char} (hBefore : AllBlank before)
    (hAfter : AllBlank after) (h : Unbroken front (before ++ (piece ++ after)) back) :
    Unbroken (front ++ before) piece (after ++ back) where
  opens := by
    by_cases hNone : before = []
    · have hOpens := h.opens
      simpa [hNone] using hOpens
    · exact seam_of_blank_end hBefore hNone
  closes := by
    by_cases hNone : after = []
    · have hCloses := h.closes
      simpa [hNone] using hCloses
    · exact seam_of_blank_start hAfter hNone
  no_separator s hSep hStart := by
    simp only [List.append_assoc] at hSep
    have hBehind := h.no_separator s (by simpa only [List.append_assoc] using hSep)
    simp only [List.length_append] at hBehind hStart ⊢
    omega

/-- On its own the piece has no separator either. -/
theorem not_isSeparator (h : Unbroken front piece back) (s : Span) : ¬s.IsSeparator piece := by
  rintro ⟨first, letters, last, rfl, rfl, hSep⟩
  have hPos := hSep.length_pos
  suffices hText : (⟨(front ++ first).length, letters.length⟩ : Span).IsSeparator
      (front ++ (first ++ (letters ++ last) ++ back)) by
    have hBehind := h.no_separator _ hText (by simp)
    simp only [List.length_append] at hBehind
    omega
  refine ⟨front ++ first, letters, last ++ back, by simp, rfl, ?_⟩
  cases hSep with
  | lineBreak breaks => exact .lineBreak breaks
  | word spelled opens closes =>
      obtain ⟨a, n, d, rfl, hFirst, -, hLast⟩ := exists_letters spelled
      refine .word spelled ?_ ?_
      -- At an end of the piece its seam says that no word character stands outside, since
      -- the letters inside are word characters.
      · by_cases hNone : first = []
        · subst hNone
          have hOpens := h.opens
          simpa [Seam, hFirst] using hOpens
        · rwa [List.getLast?_append_of_ne_nil _ hNone]
      · by_cases hNone : last = []
        · subst hNone
          have hCloses := h.closes
          simpa [Seam, hLast] using hCloses
        · rwa [List.head?_append_of_ne_nil _ hNone]

end Unbroken

namespace Separators

variable {text : List Char} {start : Nat} {spans : List Span}

/-- Behind the last separator the text is unbroken. -/
theorem unbroken_last (h : Separators text start []) (hStart : start ≤ text.length)
    (hSeam : Seam (text.take start) (text.drop start)) :
    Unbroken (text.take start) (text.drop start) [] where
  opens := by rwa [List.append_nil]
  closes := .inr rfl
  no_separator s hSep hBehind := by
    rw [List.append_nil, List.take_append_drop] at hSep
    rw [List.length_take_of_le hStart] at hBehind
    exact absurd ((h.mem_iff s).mpr ⟨hSep, hBehind⟩) List.not_mem_nil

/-- Up to the next separator the text is unbroken. -/
theorem unbroken_first {s : Span} (h : Separators text start (s :: spans))
    (hStart : start ≤ text.length) (hSeam : Seam (text.take start) (text.drop start)) :
    Unbroken (text.take start) ((text.drop start).take (s.start - start)) (text.drop s.start) := by
  obtain ⟨hSep, hFirst⟩ := (h.mem_iff s).mp List.mem_cons_self
  have hStop := hSep.lt_stop
  have hEnd := hSep.stop_le_length
  have hFront : text.take start ++ (text.drop start).take (s.start - start) =
      text.take s.start := by
    rw [← List.take_add, Nat.add_sub_cancel' hFirst]
  have hBehind := take_append_drop_later text hFirst
  refine ⟨?_, ?_, fun t ht hAfter => ?_⟩
  · rwa [hBehind]
  · rw [hFront]
    exact hSep.seams.1
  · rw [hBehind, List.take_append_drop] at ht
    rw [← List.length_append, hFront, List.length_take_of_le (by omega)]
    rw [List.length_take_of_le hStart] at hAfter
    rcases List.mem_cons.mp ((h.mem_iff t).mpr ⟨ht, hAfter⟩) with rfl | hLater
    · exact Nat.le_refl _
    · exact hStop.le.trans ((List.pairwise_cons.mp h.apart).1 t hLater)

/-- What the splitter puts between two separators is unbroken. -/
theorem exists_unbroken (h : Separators text start spans) (hStart : start ≤ text.length)
    (hSeam : Seam (text.take start) (text.drop start)) {piece : List Char}
    (hPiece : piece ∈ between text start spans) : ∃ front back, Unbroken front piece back := by
  induction spans generalizing start with
  | nil =>
      obtain rfl := List.mem_singleton.mp hPiece
      exact ⟨_, _, h.unbroken_last hStart hSeam⟩
  | cons s spans ih =>
      have hSep := ((h.mem_iff s).mp List.mem_cons_self).1
      rcases List.mem_cons.mp hPiece with rfl | hPiece
      · exact ⟨_, _, h.unbroken_first hStart hSeam⟩
      · exact ih h.tail hSep.stop_le_length hSep.seams.2 hPiece

end Separators

/-- The separators of a whole text, and the segments between them. -/
theorem exists_separators_segments (text : List Char) :
    ∃ spans, Separators text 0 spans ∧ segments none text = between text 0 spans :=
  cutsAll [] text

/-- A clause holds no separator. -/
theorem not_isSeparator_of_mem_splitClauses {text clause : List Char}
    (h : clause ∈ splitClauses text) (s : Span) : ¬s.IsSeparator clause := by
  obtain ⟨spans, hSpans, hSegments⟩ := exists_separators_segments text
  rw [splitClauses_eq, clausesOf, hSegments] at h
  obtain ⟨segment, hSegment, rfl⟩ := List.mem_map.mp (List.mem_filter.mp h).1
  obtain ⟨front, back, hUnbroken⟩ := hSpans.exists_unbroken (Nat.zero_le _) (.inl rfl) hSegment
  obtain ⟨before, after, hBefore, hAfter, hText⟩ := exists_eq_append_trim segment
  rw [hText] at hUnbroken
  exact (hUnbroken.of_blanks hBefore hAfter).not_isSeparator s

/-- The clauses of a text are the trimmed segments between its separators, those left out
that are empty. The separators are told by what stands at their places, and they never
overlap; with the segments they make up the whole text, so that nothing but separators
and the white space around clauses is left out and nothing is repeated. No clause holds a
separator. -/
theorem clauses_between_separators (text : List Char) :
    ∃ separators : List Span,
      (∀ s, s ∈ separators ↔ s.IsSeparator text) ∧
      separators.Pairwise (fun s t => s.stop ≤ t.start) ∧
      splitClauses text =
        ((between text 0 separators).map trim).filter (fun clause => !clause.isEmpty) ∧
      weave (between text 0 separators) (separators.map (Span.slice text)) = text ∧
      (∀ segment ∈ between text 0 separators, ∃ before after, AllBlank before ∧
        AllBlank after ∧ segment = before ++ (trim segment ++ after)) ∧
      ∀ clause ∈ splitClauses text, ∀ s : Span, ¬s.IsSeparator clause := by
  obtain ⟨separators, hSeparators, hSegments⟩ := exists_separators_segments text
  refine ⟨separators, fun s => ?_, hSeparators.apart, ?_, ?_, ?_, ?_⟩
  · rw [hSeparators.mem_iff, and_iff_left (Nat.zero_le _)]
  · rw [splitClauses, hSegments]
  · exact weave_between (fun s _ => Nat.zero_le _) hSeparators.apart
  · exact fun segment _ => exists_eq_append_trim segment
  · exact fun clause hClause s => not_isSeparator_of_mem_splitClauses hClause s

end EquityScreen.Query
