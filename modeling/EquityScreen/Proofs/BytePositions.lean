import EquityScreen.Proofs.Trimming
import EquityScreen.Query.Diagnostic
import EquityScreen.Text.Cut
import Mathlib.Data.List.Basic

/-! Byte positions of a text. The size of a part at the front of a text is a position where
the text can be cut, and there are no others. The characters in front of a position are
counted one by one, whatever their sizes. -/
namespace EquityScreen

namespace Text

@[simp] theorem utf8Size_append (front back : List Char) :
    utf8Size (front ++ back) = utf8Size front + utf8Size back := by
  induction front with
  | nil => exact (Nat.zero_add _).symm
  | cons c front ih => rw [List.cons_append, utf8Size, utf8Size, ih, Nat.add_assoc]

theorem utf8Size_singleton (c : Char) : utf8Size [c] = c.utf8Size := Nat.add_zero _

theorem utf8Size_pos {cs : List Char} (h : cs ≠ []) : 0 < utf8Size cs := by
  obtain ⟨c, cs, rfl⟩ := List.exists_cons_of_ne_nil h
  exact Nat.add_pos_left c.utf8Size_pos _

/-- A position counted back from the end over what is left of a trimmed text. -/
theorem utf8Size_sub_trimStart (front rest : List Char) :
    utf8Size (front ++ rest) - utf8Size (trimStart rest) =
      utf8Size (front ++ rest.takeWhile isBlank) := by
  have hRest : rest.takeWhile isBlank ++ trimStart rest = rest := List.takeWhile_append_dropWhile
  have hSize := utf8Size_append (front ++ rest.takeWhile isBlank) (trimStart rest)
  rw [List.append_assoc, hRest] at hSize
  rw [hSize, Nat.add_sub_cancel]

theorem cutAt?_zero (cs : List Char) : cutAt? 0 cs = some ([], cs) := by
  cases cs <;> rfl

/-- A cut behind the first character is a cut of what follows it. -/
theorem cutAt?_cons (n : Nat) (c : Char) (cs : List Char) :
    cutAt? (c.utf8Size + n) (c :: cs) =
      (cutAt? n cs).map fun (front, back) => (c :: front, back) := by
  have hPos := c.utf8Size_pos
  obtain ⟨k, hSize⟩ : ∃ k, c.utf8Size + n = k + 1 := ⟨c.utf8Size + n - 1, by omega⟩
  have hRest : k + 1 - c.utf8Size = n := by omega
  rw [hSize, cutAt?, if_neg (by omega), hRest]

theorem cutAt?_append (front back : List Char) :
    cutAt? (utf8Size front) (front ++ back) = some (front, back) := by
  induction front with
  | nil => exact cutAt?_zero back
  | cons c front ih =>
      rw [utf8Size, List.cons_append, cutAt?_cons, ih]
      rfl

/-- Cutting loses nothing, and what is cut off at the front has the size asked for. -/
theorem eq_of_cutAt? {position : Nat} {text front back : List Char}
    (h : cutAt? position text = some (front, back)) :
    text = front ++ back ∧ position = utf8Size front := by
  induction text generalizing position front with
  | nil =>
      cases position with
      | zero =>
          cases h
          exact ⟨rfl, rfl⟩
      | succ n => cases h
  | cons c cs ih =>
      cases position with
      | zero =>
          cases h
          exact ⟨rfl, rfl⟩
      | succ n =>
          rw [cutAt?] at h
          split at h
          · cases h
          · next hBehind =>
              obtain ⟨⟨first, rest⟩, hCut, hParts⟩ := Option.map_eq_some_iff.mp h
              obtain ⟨rfl, rfl⟩ := Prod.mk.inj hParts
              obtain ⟨rfl, hSize⟩ := ih hCut
              refine ⟨rfl, ?_⟩
              rw [utf8Size]
              omega

/-- A position where a text can be cut: one between two characters, or at an end. -/
def IsBoundary (text : List Char) (position : Nat) : Prop :=
  ∃ front back, text = front ++ back ∧ position = utf8Size front

theorem IsBoundary.le {text : List Char} {position : Nat} (h : IsBoundary text position) :
    position ≤ utf8Size text := by
  obtain ⟨front, back, rfl, rfl⟩ := h
  rw [utf8Size_append]
  exact Nat.le_add_right _ _

/-- A slice is a stretch of the text, and it begins at the position it gives. -/
def Slice.LiesIn (text : List Char) (s : Slice) : Prop :=
  ∃ front back, text = front ++ (s.text ++ back) ∧ s.start = utf8Size front

/-- Without the white space around it a slice still lies where it says. -/
theorem Slice.LiesIn.trim {text : List Char} {s : Slice} (h : s.LiesIn text) :
    s.trim.LiesIn text := by
  obtain ⟨front, back, rfl, hStart⟩ := h
  refine ⟨front ++ s.text.takeWhile isBlank,
    ((trimStart s.text).reverse.takeWhile isBlank).reverse ++ back, ?_, ?_⟩
  · rw [Slice.trim, ← List.append_assoc (Text.trim s.text), trim_append_blanks, List.append_assoc,
      ← List.append_assoc (s.text.takeWhile isBlank), trimStart, List.takeWhile_append_dropWhile]
  · rw [Slice.trim, hStart, utf8Size_append]

end Text

/-- As many characters stand in front of a position as the part up to it has. -/
theorem Diagnostic.charsBefore_append (front back : List Char) :
    charsBefore (Text.utf8Size front) (front ++ back) = front.length := by
  induction front with
  | nil => cases back <;> rfl
  | cons c front ih =>
      have hSome : ¬c.utf8Size + Text.utf8Size front = 0 := by
        have hPos := c.utf8Size_pos
        omega
      rw [Text.utf8Size, List.cons_append, charsBefore, if_neg hSome, Nat.add_sub_cancel_left, ih]
      rfl

end EquityScreen
