import EquityScreen.Query.Clause
import EquityScreen.Query.Split
import EquityScreen.Text.Cut

/-! A cursor that goes through a text and counts its bytes. Nothing about a byte position by itself
keeps it between two characters, and nothing about a loop by itself makes it end; a scan therefore
stops at once where its cursor would leave these places, where it would cut the text anywhere else,
and where a loop goes round without getting further. -/
namespace EquityScreen.Query.Scan

/-- What stops a scan before its result. All but the first must never happen. -/
inductive Stop where
  | rejected (error : ClauseError)
  | offBoundary (position : Nat)
  | stuck
  | invalidNumber (numeral : List Char) (position : Nat)
deriving DecidableEq, Repr

/-- The text before a position and the text from there on. -/
def cut (position : Nat) (text : List Char) : Except Stop (List Char × List Char) :=
  match Text.cutAt? position text with
  | some parts => .ok parts
  | none => .error (.offBoundary position)

/-- The text between two positions. -/
def slice (text : List Char) (start stop : Nat) : Except Stop Text.Slice := do
  let (before, _) ← cut stop text
  let (_, piece) ← cut start before
  return ⟨start, piece⟩

/-- Go round a loop until a round has nothing more to do. Each round must leave less to go
through than the one before. -/
def loop {State : Type} (left : State → Nat) (round : State → Except Stop (Option State))
    (s : State) : Except Stop State :=
  match round s with
  | .error stop => .error stop
  | .ok none => .ok s
  | .ok (some next) => if left next < left s then loop left round next else .error .stuck
termination_by left s

/-- A place in a text. -/
structure Cursor where
  text : List Char
  position : Nat
deriving DecidableEq, Repr

namespace Cursor

def start (text : List Char) : Cursor := ⟨text, 0⟩

/-- The number of bytes behind the cursor. -/
def left (c : Cursor) : Nat := Text.utf8Size c.text - c.position

def moveTo (c : Cursor) (position : Nat) : Except Stop Cursor := do
  let _ ← cut position c.text
  return { c with position }

/-- The text behind the cursor. -/
def remaining (c : Cursor) : Except Stop (List Char) := do
  let (_, rest) ← cut c.position c.text
  return rest

def peek (c : Cursor) : Except Stop (Option Char) := do
  let rest ← c.remaining
  return rest.head?

/-- Go past one character. -/
def advance (c : Cursor) : Except Stop Cursor := do
  match ← c.peek with
  | some ch => c.moveTo (c.position + ch.utf8Size)
  | none => return c

def blankRound (c : Cursor) : Except Stop (Option Cursor) := do
  match ← c.peek with
  | some ch =>
    if Text.isBlank ch then
      let next ← c.advance
      return some next
    else return none
  | none => return none

def skipBlanks (c : Cursor) : Except Stop Cursor := loop left blankRound c

/-- The cursor stands in front of a word, in any ASCII case, that no word character touches. -/
def atKeyword (c : Cursor) (keyword : List Char) : Except Stop Bool := do
  let (before, rest) ← cut c.position c.text
  if before.getLast?.any isWordChar then return false
  else
    -- Where the keyword would end inside a character there is no keyword, and no cut either.
    match Text.cutAt? (Text.utf8Size keyword) rest with
    | some (head, _) =>
      if Text.sameIgnoringAsciiCase head keyword then
        let (_, after) ← cut (Text.utf8Size keyword) rest
        return !after.head?.any isWordChar
      else return false
    | none => return false

/-- One more character of a token: the token so far, and the text behind it. -/
def tokenRound : List Char × List Char → Except Stop (Option (List Char × List Char))
  | (_, []) => return none
  | (token, ch :: rest) =>
    if Text.isBlank ch then return none else return some (token ++ [ch], rest)

/-- The text up to the next white space, if there is any. -/
def token? (c : Cursor) : Except Stop (Option (List Char)) := do
  let rest ← c.remaining
  let (token, _) ← loop (fun s => Text.utf8Size s.2) tokenRound ([], rest)
  return if token.isEmpty then none else some token

end Cursor

/-- A number on the way: where the scan is, whether the point was there, and the digits so far. -/
structure NumberScan where
  cursor : Cursor
  hasPoint : Bool
  digits : Nat

def numberRound (s : NumberScan) : Except Stop (Option NumberScan) := do
  match ← s.cursor.peek with
  | some ch =>
    if ch.isDigit then
      let cursor ← s.cursor.advance
      return some { s with cursor, digits := s.digits + 1 }
    else if ch == '.' && !s.hasPoint then
      let cursor ← s.cursor.advance
      return some { s with cursor, hasPoint := true }
    else return none
  | none => return none

namespace Cursor

/-- Read digits with at most one point among them. -/
def number (c : Cursor) : Except Stop (Binary64 × Cursor) := do
  let c ← c.skipBlanks
  let s ← loop (fun s => s.cursor.left) numberRound ⟨c, false, 0⟩
  if s.digits = 0 then
    let back ← s.cursor.moveTo c.position
    let found ← back.token?
    throw (.rejected ⟨.missingNumber found, c.position⟩)
  else
    let numeral ← slice c.text c.position s.cursor.position
    match Binary64.ofNumeral? numeral.text with
    | some value => return (value, s.cursor)
    | none => throw (.invalidNumber numeral.text c.position)

/-- Nothing but white space is left. -/
def expectEnd (c : Cursor) : Except Stop Unit := do
  let c ← c.skipBlanks
  if c.position < Text.utf8Size c.text then
    let rest ← c.remaining
    throw (.rejected ⟨.trailingText rest, c.position⟩)

end Cursor

end EquityScreen.Query.Scan
