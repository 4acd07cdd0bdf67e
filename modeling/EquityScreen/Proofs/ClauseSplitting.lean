import EquityScreen.Query.Split
import EquityScreen.Proofs.Trimming
import Mathlib.Tactic.Common

/-! Splitting a text made of two. At a character that no word can hold nothing that
one side looks like depends on the other side, so the two parts split on their own
and only the two segments that meet there grow together. -/
namespace EquityScreen.Query

open Text

/-- The text begins with a separate AND. -/
def startsWithAnd (before : Option Char) : List Char → Bool
  | a :: n :: d :: after => isSeparateAnd before a n d after.head?
  | _ => false

theorem isWordChar_of_isAlpha {c : Char} (h : c.isAlpha = true) : isWordChar c = true := by
  have hAscii : c.toNat < 0x80 := by
    rcases Bool.or_eq_true_iff.mp h with hUpper | hLower
    · have hLast := (of_decide_eq_true hUpper).2
      exact Nat.lt_of_le_of_lt hLast (by decide)
    · have hLast := of_decide_eq_true (Bool.and_eq_true_iff.mp hLower).2
      exact Nat.lt_of_le_of_lt hLast (by decide)
  rw [isWordChar, isAlphanumeric, if_pos hAscii, Char.isAlphanum, h]
  rfl

theorem isWordChar_of_isLineBreak {c : Char} (h : isLineBreak c = true) :
    isWordChar c = false := by
  rw [isLineBreak, Bool.or_eq_true, beq_iff_eq, beq_iff_eq] at h
  rcases h with rfl | rfl <;> decide

/-- A capital is a letter, and anything else is its own small letter. -/
theorem isAlpha_of_toLower {c letter : Char} (h : c.toLower = letter)
    (hLetter : letter.isAlpha = true) : c.isAlpha = true := by
  unfold Char.toLower at h
  split at h
  · next hCapital =>
      have hUpper : c.isUpper = true := decide_eq_true hCapital
      exact Bool.or_eq_true_iff.mpr (.inl hUpper)
  · rwa [h]

/-- A separate AND consists of characters that words can hold. -/
theorem isWordChar_of_isSeparateAnd {before after : Option Char} {a n d : Char}
    (h : isSeparateAnd before a n d after = true) :
    isWordChar a = true ∧ isWordChar n = true ∧ isWordChar d = true := by
  have hLetter {c letter : Char} (hCase : c.toLower = letter) (hAlpha : letter.isAlpha = true) :
      isWordChar c = true :=
    isWordChar_of_isAlpha (isAlpha_of_toLower hCase hAlpha)
  rw [isSeparateAnd, Bool.and_eq_true, Bool.and_eq_true] at h
  have hCases : a.toLower = 'a' ∧ n.toLower = 'n' ∧ d.toLower = 'd' := by
    simpa [sameIgnoringAsciiCase, asciiLower] using h.1.2
  exact ⟨hLetter hCases.1 rfl, hLetter hCases.2.1 rfl, hLetter hCases.2.2 rfl⟩

/-! The three ways in which splitting goes on, one for each kind of beginning. -/

theorem segments_lineBreak (before : Option Char) {a : Char} (rest : List Char)
    (hBreak : isLineBreak a = true) :
    segments before (a :: rest) = [] :: segments (some a) rest := by
  rw [segments.eq_def]
  simp only [hBreak, if_true]

theorem segments_and {before : Option Char} {a n d : Char} {after : List Char}
    (h : isSeparateAnd before a n d after.head? = true) :
    segments before (a :: n :: d :: after) = [] :: segments (some d) after := by
  have hBreak : ¬isLineBreak a = true := by
    intro hBreak
    have hWord := (isWordChar_of_isSeparateAnd h).1
    rw [isWordChar_of_isLineBreak hBreak] at hWord
    exact Bool.false_ne_true hWord
  rw [segments, if_neg hBreak, if_pos h]

theorem segments_char {before : Option Char} {a : Char} {rest : List Char}
    (hBreak : isLineBreak a = false) (hAnd : startsWithAnd before (a :: rest) = false) :
    segments before (a :: rest) = consSegment a (segments (some a) rest) := by
  rw [segments.eq_def]
  simp only [hBreak, Bool.false_eq_true, if_false]
  split
  · next n d after =>
      have hAnd' : isSeparateAnd before a n d after.head? = false := hAnd
      simp only [hAnd', Bool.false_eq_true, if_false]
  · rfl

theorem consSegment_ne_nil (c : Char) (as : List (List Char)) : consSegment c as ≠ [] := by
  cases as <;> exact List.cons_ne_nil _ _

theorem segments_ne_nil (before : Option Char) (text : List Char) : segments before text ≠ [] := by
  cases text with
  | nil => exact List.cons_ne_nil _ _
  | cons a rest =>
      rw [segments.eq_def]
      dsimp only
      split
      · exact List.cons_ne_nil _ _
      · split
        · split
          · exact List.cons_ne_nil _ _
          · exact consSegment_ne_nil _ _
        · exact consSegment_ne_nil _ _

/-- All that counts about the character in front is whether words can hold it. -/
theorem segments_before {before before' : Option Char}
    (h : before.any isWordChar = before'.any isWordChar) (text : List Char) :
    segments before text = segments before' text := by
  cases text with
  | nil => rfl
  | cons a rest =>
      have hAnd (n d : Char) (after : Option Char) :
          isSeparateAnd before a n d after = isSeparateAnd before' a n d after := by
        simp only [isSeparateAnd, h]
      rw [segments.eq_def, segments.eq_def before']
      simp only [hAnd]

/-- The last character of a text, or the one in front of it. -/
def lastChar (before : Option Char) (text : List Char) : Option Char :=
  text.foldl (fun _ c => some c) before

/-- Put two lists of segments together, the last of one and the first of the other
becoming one segment. -/
def meet : List (List Char) → List (List Char) → List (List Char)
  | [], bs => bs
  | [a], [] => [a]
  | [a], b :: bs => (a ++ b) :: bs
  | a :: a' :: as, bs => a :: meet (a' :: as) bs

theorem meet_cons (a : List Char) {as : List (List Char)} (h : as ≠ [])
    (bs : List (List Char)) : meet (a :: as) bs = a :: meet as bs := by
  cases as with
  | nil => exact absurd rfl h
  | cons a' as => rfl

theorem meet_consSegment (c : Char) {as : List (List Char)} (h : as ≠ [])
    (bs : List (List Char)) : meet (consSegment c as) bs = consSegment c (meet as bs) := by
  match as, bs with
  | [], _ => exact absurd rfl h
  | [a], [] => rfl
  | [a], b :: bs => rfl
  | a :: a' :: as, bs => rfl

theorem meet_empty {bs : List (List Char)} (h : bs ≠ []) : meet [[]] bs = bs := by
  cases bs with
  | nil => exact absurd rfl h
  | cons b bs => rfl

theorem not_isSeparateAnd {before after : Option Char} {a n d : Char}
    (h : isWordChar a = false ∨ isWordChar n = false ∨ isWordChar d = false) :
    isSeparateAnd before a n d after = false := by
  rw [Bool.eq_false_iff]
  intro hAnd
  obtain ⟨ha, hn, hd⟩ := isWordChar_of_isSeparateAnd hAnd
  rw [ha, hn, hd] at h
  simp at h

/-- Whether a text begins with a separate AND is not changed by what follows, if
that begins with a character that no word can hold. -/
theorem startsWithAnd_append {rest : List Char} (hSeam : rest.head?.any isWordChar = false)
    (before : Option Char) (a : Char) (xs : List Char) :
    startsWithAnd before (a :: (xs ++ rest)) = startsWithAnd before (a :: xs) := by
  match xs with
  | [] =>
      match rest with
      | [] => rfl
      | [n] => rfl
      | n :: d :: after => exact not_isSeparateAnd (.inr (.inl hSeam))
  | [n] =>
      match rest with
      | [] => rfl
      | d :: after => exact not_isSeparateAnd (.inr (.inr hSeam))
  | [n, d] =>
      change isSeparateAnd before a n d rest.head? = isSeparateAnd before a n d none
      simp only [isSeparateAnd, hSeam, Option.any_none]
  | n :: d :: e :: after => rfl

theorem exists_of_startsWithAnd {before : Option Char} {a : Char} {xs : List Char}
    (h : startsWithAnd before (a :: xs) = true) :
    ∃ n d after, xs = n :: d :: after ∧ isSeparateAnd before a n d after.head? = true := by
  match xs with
  | [] => cases h
  | [n] => cases h
  | n :: d :: after => exact ⟨n, d, after, rfl, h⟩

/-- The two parts of a text split on their own if the second begins with a character
that no word can hold. Induction on the first part, one separator or character at a
time. -/
theorem segments_append {rest : List Char} (hSeam : rest.head?.any isWordChar = false)
    (before : Option Char) (xs : List Char) :
    segments before (xs ++ rest) =
      meet (segments before xs) (segments (lastChar before xs) rest) := by
  induction hLength : xs.length using Nat.strong_induction_on generalizing before xs with
  | _ length ih =>
      subst hLength
      match xs with
      | [] => exact (meet_empty (segments_ne_nil before rest)).symm
      | a :: xs =>
          by_cases hBreak : isLineBreak a = true
          · have hTail := ih xs.length (Nat.lt_succ_self _) (some a) xs rfl
            rw [List.cons_append, segments_lineBreak before _ hBreak,
              segments_lineBreak before _ hBreak, hTail, meet_cons [] (segments_ne_nil _ _)]
            rfl
          · rw [Bool.not_eq_true] at hBreak
            by_cases hAnd : startsWithAnd before (a :: xs) = true
            · obtain ⟨n, d, after, rfl, hSeparate⟩ := exists_of_startsWithAnd hAnd
              have hShorter : after.length < (a :: n :: d :: after).length := by
                simp only [List.length_cons]
                omega
              have hTail := ih after.length hShorter (some d) after rfl
              have hSeparate' : isSeparateAnd before a n d (after ++ rest).head? = true :=
                (startsWithAnd_append hSeam before a (n :: d :: after)).trans hAnd
              rw [List.cons_append, List.cons_append, List.cons_append, segments_and hSeparate',
                segments_and hSeparate, hTail, meet_cons [] (segments_ne_nil _ _)]
              rfl
            · rw [Bool.not_eq_true] at hAnd
              have hTail := ih xs.length (Nat.lt_succ_self _) (some a) xs rfl
              have hAnd' := (startsWithAnd_append hSeam before a xs).trans hAnd
              rw [List.cons_append, segments_char hBreak hAnd', segments_char hBreak hAnd, hTail,
                meet_consSegment a (segments_ne_nil _ _)]
              rfl

/-- The clauses among segments: trimmed, empty ones left out. -/
def clausesOf (as : List (List Char)) : List (List Char) :=
  (as.map trim).filter fun clause => !clause.isEmpty

theorem splitClauses_eq (text : List Char) : splitClauses text = clausesOf (segments none text) :=
  rfl

theorem clausesOf_append (as bs : List (List Char)) :
    clausesOf (as ++ bs) = clausesOf as ++ clausesOf bs := by
  rw [clausesOf, List.map_append, List.filter_append, clausesOf, clausesOf]

theorem clausesOf_cons (a : List Char) (as : List (List Char)) :
    clausesOf (a :: as) = clausesOf [a] ++ clausesOf as :=
  clausesOf_append [a] as

theorem clausesOf_empty (as : List (List Char)) : clausesOf ([] :: as) = clausesOf as := rfl

/-- White space in front of the first segment belongs to no clause. -/
theorem clausesOf_consSegment {c : Char} (hBlank : isBlank c = true) {as : List (List Char)}
    (h : as ≠ []) : clausesOf (consSegment c as) = clausesOf as := by
  have hAll : AllBlank [c] := fun x hx => by rwa [List.mem_singleton.mp hx]
  cases as with
  | nil => exact absurd rfl h
  | cons a as =>
      have hTrim : trim (c :: a) = trim a := trim_blank_append hAll a
      rw [consSegment, clausesOf, clausesOf, List.map_cons, List.map_cons, hTrim]

/-- White space where two texts meet belongs to no clause. -/
theorem clausesOf_meet {b : List Char} (hBlank : AllBlank b) {as : List (List Char)}
    (h : as ≠ []) (bs : List (List Char)) :
    clausesOf (meet as (b :: bs)) = clausesOf as ++ clausesOf bs := by
  induction as with
  | nil => exact absurd rfl h
  | cons a as ih =>
      cases as with
      | nil =>
          have hTrim : clausesOf [a ++ b] = clausesOf [a] := by
            rw [clausesOf, clausesOf, List.map_singleton, List.map_singleton,
              trim_append_blank hBlank]
          rw [meet, clausesOf_cons, hTrim]
      | cons a' as =>
          rw [meet_cons a (List.cons_ne_nil _ _), clausesOf_cons, ih (List.cons_ne_nil _ _),
            clausesOf_cons a (a' :: as), List.append_assoc]

end EquityScreen.Query
