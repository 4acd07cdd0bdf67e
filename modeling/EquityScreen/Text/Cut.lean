import EquityScreen.Text.Blank

/-! Cutting a text at a byte position. A text can be cut where a character begins and at its two
ends; no cut goes through the bytes of a character or lies behind the text. -/
namespace EquityScreen.Text

/-- The text before a position and the text from there on, if it can be cut there. -/
def cutAt? : Nat → List Char → Option (List Char × List Char)
  | 0, cs => some ([], cs)
  | _ + 1, [] => none
  | n + 1, c :: cs =>
    if n + 1 < c.utf8Size then none
    else (cutAt? (n + 1 - c.utf8Size) cs).map fun (front, back) => (c :: front, back)

/-- A stretch of a text, with the position where it begins. -/
structure Slice where
  start : Nat
  text : List Char
deriving DecidableEq, Repr

/-- The slice without the white space at both ends. -/
def Slice.trim (s : Slice) : Slice :=
  ⟨s.start + utf8Size (s.text.takeWhile isBlank), Text.trim s.text⟩

end EquityScreen.Text
