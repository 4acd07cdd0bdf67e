import EquityScreen.Query.Cursor

/-! Queries read by a cursor: the clauses are cut out of the text at byte positions, and a clause is
read from the position of its last operator on. -/
namespace EquityScreen.Query.Scan

/-- Splitting on the way: the cursor, the position where the current piece began, and the pieces
before it. -/
structure Splitting where
  cursor : Cursor
  start : Nat
  pieces : List Text.Slice

def splitRound (s : Splitting) : Except Stop (Option Splitting) := do
  match ← s.cursor.peek with
  | none => return none
  | some c =>
    if isLineBreak c then
      let piece ← slice s.cursor.text s.start s.cursor.position
      let cursor ← s.cursor.advance
      return some ⟨cursor, cursor.position, s.pieces ++ [piece]⟩
    else if ← s.cursor.atKeyword "AND".toList then
      let piece ← slice s.cursor.text s.start s.cursor.position
      let cursor ← s.cursor.moveTo (s.cursor.position + Text.utf8Size "AND".toList)
      return some ⟨cursor, cursor.position, s.pieces ++ [piece]⟩
    else
      let cursor ← s.cursor.advance
      return some { s with cursor }

/-- The clauses of a query text, each with the position where it begins. -/
def cutClauses (text : List Char) : Except Stop (List Text.Slice) := do
  let s ← loop (fun s => s.cursor.left) splitRound ⟨.start text, 0, []⟩
  let (_, last) ← cut s.start text
  let pieces : List Text.Slice := s.pieces ++ [⟨s.start, last⟩]
  return (pieces.map Text.Slice.trim).filter fun piece => !piece.text.isEmpty

/-- The characters of a text and where they begin. -/
def charPositions : Nat → List Char → List (Nat × Char)
  | _, [] => []
  | position, c :: rest => (position, c) :: charPositions (position + c.utf8Size) rest

/-- The last operator of a clause and where it stands. -/
def lastOperator? (clause : List Char) : Option (Nat × Operator) :=
  (charPositions 0 clause).reverse.findSome? fun (position, c) =>
    (Operator.ofChar? c).map fun op => (position, op)

/-- Read a clause. -/
def parse (clause : List Char) : Except Stop Condition :=
  match lastOperator? clause with
  | none => throw (.rejected ⟨.missingOperator, Text.utf8Size clause⟩)
  | some (position, operator) => do
    let (before, _) ← cut position clause
    let name := Text.trim before
    if name.isEmpty then throw (.rejected ⟨.missingField, position⟩)
    else
      let cursor ← (Cursor.start clause).moveTo (position + operator.symbol.utf8Size)
      let (value, cursor) ← cursor.number
      cursor.expectEnd
      match Metric.ofLabel? name with
      | none =>
        let indent := Text.utf8Size before - Text.utf8Size (Text.trimStart before)
        throw (.rejected ⟨.unknownField name, indent⟩)
      | some field => return ⟨field, operator, value⟩

end EquityScreen.Query.Scan
