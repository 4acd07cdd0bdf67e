import EquityScreen.Text.Utf8

/-! Text for terminals. A message is styled with control sequences, which begin with an escape byte.
Its plain form has only what shows: all control sequences are taken out, also those that the values
in it bring along, and of the other controls only white space is left. -/
namespace EquityScreen.CommandLine

/-- How a part of a message stands out. -/
inductive Style where
  | alarm
  | doubtful
  | exact
deriving DecidableEq, Repr

/-- The attributes of a style in a control sequence. -/
def Style.attributes : Style → String
  | alarm => "1;31"
  | doubtful => "33"
  | exact => "1"

/-- A text in a style, and back to no style behind it. -/
def styled (style : Style) (text : String) : String :=
  "\x1b[" ++ style.attributes ++ "m" ++ text ++ "\x1b[0m"

/-- What a byte of a text for terminals is part of. -/
inductive ControlState where
  | text
  | escape
  | escapeIntermediate
  | controlSequence
  | systemCommand
  | controlString
deriving DecidableEq, Repr

namespace ControlState

/-- The sequence is a string that only the terminal reads. -/
def isString : ControlState → Bool
  | systemCommand | controlString => true
  | _ => false

/-- The state behind the escape byte and one byte more. -/
def afterEscape (b : Nat) : ControlState :=
  if 0x20 ≤ b ∧ b ≤ 0x2F then escapeIntermediate
  else if b = 0x5B then controlSequence
  else if b = 0x5D then systemCommand
  else if b = 0x50 ∨ b = 0x58 ∨ b = 0x5E ∨ b = 0x5F then controlString
  else if 0x30 ≤ b ∧ b ≤ 0x7E then text
  else escape

/-- The state behind a byte that does not show. Cancel and substitute end every sequence, and an
escape byte ends it to start another. -/
def next (state : ControlState) (b : Nat) : ControlState :=
  if b = 0x18 ∨ b = 0x1A then text
  else if b = 0x1B then escape
  else
    match state with
    | text => text
    | escape => afterEscape b
    | escapeIntermediate => if 0x30 ≤ b ∧ b ≤ 0x7E then text else escapeIntermediate
    | controlSequence => if 0x40 ≤ b ∧ b ≤ 0x7E then text else controlSequence
    | systemCommand => if b = 0x07 then text else systemCommand
    | controlString => controlString

/-- White space among the controls: tab, line feed, form feed and carriage return. -/
def isBlankControl (b : Nat) : Bool := b == 0x09 || b == 0x0A || b == 0x0C || b == 0x0D

/-- Whether a byte shows. Outside of sequences all but controls do. White space shows also inside a
sequence that is no string, and a byte that continues a character shows everywhere. -/
def shows (state : ControlState) (b : Nat) : Bool :=
  (0x80 ≤ b && b ≤ 0xBF) || (isBlankControl b && !state.isString)
    || (state == text && 0x20 ≤ b && b != 0x7F)

end ControlState

/-- The bytes that show. Behind one that does, no sequence is open. -/
def shownBytes (state : ControlState) : List UInt8 → List UInt8
  | [] => []
  | b :: rest =>
    if state.shows b.toNat then b :: shownBytes .text rest
    else shownBytes (state.next b.toNat) rest

/-- The plain form of a text for terminals. -/
def plainText (text : String) : String :=
  String.ofList (Text.decodeUtf8Lossy (shownBytes .text (Text.utf8Bytes text.toList)))

end EquityScreen.CommandLine
