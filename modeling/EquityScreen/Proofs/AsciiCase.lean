import EquityScreen.Metric
import Mathlib.Data.List.TakeWhile

/-! Small letters of the Latin alphabet. A text and what becomes of it in small letters agree
in everything that does not tell a capital from its small letter, which is checked for one
capital after the other. Two texts that differ in the case of such letters alone become the
same. -/
namespace EquityScreen

namespace Text

/-- Only the capitals of the Latin alphabet have another small letter. -/
theorem asciiLower_cases (c : Char) :
    asciiLower c = c ∨ ∃ n ∈ List.range' 65 26, c = Char.ofNat n := by
  unfold asciiLower Char.toLower
  split
  · next hCapital =>
      have hLow : 65 ≤ c.toNat := hCapital.1
      have hHigh : c.toNat ≤ 90 := hCapital.2
      refine .inr ⟨c.toNat, List.mem_range'_1.mpr ⟨hLow, by omega⟩, ?_⟩
      exact (Char.ofNat_toNat c).symm
  · exact .inl rfl

/-- What a function makes of every capital and of its small letter alike, it makes alike of
every character and its small letter. -/
theorem asciiLower_invariant {α : Type} (f : Char → α)
    (h : ∀ n ∈ List.range' 65 26, f (asciiLower (Char.ofNat n)) = f (Char.ofNat n)) (c : Char) :
    f (asciiLower c) = f c := by
  rcases asciiLower_cases c with hSame | ⟨n, hn, rfl⟩
  · rw [hSame]
  · exact h n hn

theorem utf8Size_asciiLower (c : Char) : (asciiLower c).utf8Size = c.utf8Size :=
  asciiLower_invariant Char.utf8Size (by decide) c

theorem isBlank_asciiLower (c : Char) : isBlank (asciiLower c) = isBlank c :=
  asciiLower_invariant isBlank (by decide +kernel) c

theorem isDigit_asciiLower (c : Char) : (asciiLower c).isDigit = c.isDigit :=
  asciiLower_invariant Char.isDigit (by decide) c

/-- A text and the same in small letters are equal up to case. -/
theorem sameIgnoringAsciiCase_iff {a b : List Char} :
    sameIgnoringAsciiCase a b = true ↔ a.map asciiLower = b.map asciiLower :=
  beq_iff_eq

/-! What becomes of a text in small letters, size for size and part for part. -/

theorem utf8Size_map_asciiLower (cs : List Char) : utf8Size (cs.map asciiLower) = utf8Size cs := by
  induction cs with
  | nil => rfl
  | cons c cs ih => rw [List.map_cons, utf8Size, utf8Size, utf8Size_asciiLower, ih]

theorem utf8Size_of_sameIgnoringAsciiCase {a b : List Char} (h : sameIgnoringAsciiCase a b = true) :
    utf8Size a = utf8Size b := by
  rw [← utf8Size_map_asciiLower a, ← utf8Size_map_asciiLower b, sameIgnoringAsciiCase_iff.mp h]

section Spans

variable {p : Char → Bool} (h : ∀ c, p (asciiLower c) = p c) (cs : List Char)
include h

theorem takeWhile_map_asciiLower :
    (cs.map asciiLower).takeWhile p = (cs.takeWhile p).map asciiLower := by
  have hSame : p ∘ asciiLower = p := funext h
  rw [List.takeWhile_map, hSame]

theorem dropWhile_map_asciiLower :
    (cs.map asciiLower).dropWhile p = (cs.dropWhile p).map asciiLower := by
  have hSame : p ∘ asciiLower = p := funext h
  rw [List.dropWhile_map, hSame]

end Spans

theorem trimStart_map_asciiLower (cs : List Char) :
    trimStart (cs.map asciiLower) = (trimStart cs).map asciiLower :=
  dropWhile_map_asciiLower isBlank_asciiLower cs

theorem trim_map_asciiLower (cs : List Char) :
    trim (cs.map asciiLower) = (trim cs).map asciiLower := by
  rw [trim, trimStart_map_asciiLower, trimEnd, ← List.map_reverse,
    dropWhile_map_asciiLower isBlank_asciiLower, ← List.map_reverse, trim, trimEnd]

/-! The lower-case form by the full mapping is the same, too: whether a capital sigma ends a word
depends on the case that its neighbours can have, not on the one they are written in. -/

theorem startsCased_map_asciiLower (cs : List Char) :
    startsCased (cs.map asciiLower) = startsCased cs := by
  have hIgnorable : (fun c => !isCaseIgnorable c) ∘ asciiLower = fun c => !isCaseIgnorable c :=
    funext (asciiLower_invariant (fun c => !isCaseIgnorable c) (by decide +kernel))
  have hCased : ∀ c, isCased (asciiLower c) = isCased c :=
    asciiLower_invariant isCased (by decide +kernel)
  rw [startsCased, List.find?_map, hIgnorable, Option.any_map]
  simp only [hCased]
  rfl

theorem lowercaseFrom_map_asciiLower (before cs : List Char) :
    lowercaseFrom (before.map asciiLower) (cs.map asciiLower) = lowercaseFrom before cs := by
  induction cs generalizing before with
  | nil => rfl
  | cons c cs ih =>
      have hSigma : (asciiLower c = 'Σ') = (c = 'Σ') :=
        asciiLower_invariant (fun c => c = 'Σ') (by decide) c
      have hSmall : lowercaseChar (asciiLower c) = lowercaseChar c :=
        asciiLower_invariant lowercaseChar (by decide +kernel) c
      have hRest := ih (c :: before)
      rw [List.map_cons] at hRest
      simp only [List.map_cons, lowercaseFrom, hSigma, hSmall, startsCased_map_asciiLower, hRest]

theorem lowercase_map_asciiLower (cs : List Char) : lowercase (cs.map asciiLower) = lowercase cs :=
  lowercaseFrom_map_asciiLower [] cs

end Text

/-- A label names the same metric in small letters. -/
theorem Metric.ofLabel?_map_asciiLower (name : List Char) :
    ofLabel? (name.map Text.asciiLower) = ofLabel? name := by
  rw [ofLabel?, Text.trim_map_asciiLower, Text.lowercase_map_asciiLower, ofLabel?]

end EquityScreen
