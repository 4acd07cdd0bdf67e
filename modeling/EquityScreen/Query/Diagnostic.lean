import EquityScreen.Text.Blank

/-! Messages that point into a text. A position is a number of UTF-8 bytes from the start. -/
namespace EquityScreen

/-- What is wrong with a text, and where. -/
structure Diagnostic where
  message : String
  position : Nat
deriving DecidableEq, Repr

namespace Diagnostic

def text (d : Diagnostic) : String :=
  "parse error at position " ++ toString d.position ++ ": " ++ d.message

/-- How many characters of a text start before a position. -/
def charsBefore : Nat → List Char → Nat
  | _, [] => 0
  | position, c :: rest =>
    if position = 0 then 0 else charsBefore (position - c.utf8Size) rest + 1

/-- The text, a caret below the character at the position, and the message. -/
def inContext (d : Diagnostic) (input : String) : String :=
  input ++ "\n" ++ String.ofList (List.replicate (charsBefore d.position input.toList) ' ')
    ++ "^\n" ++ d.text

end Diagnostic

end EquityScreen
