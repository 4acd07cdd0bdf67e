import EquityScreen.Text.Blank

/-! Comma-separated records. A field may stand in double quotes, inside which commas and line breaks
are text and a doubled quote stands for one; text after a closing quote belongs to the field. Any
line feed or carriage return ends a record, and blank lines are no records. -/
namespace EquityScreen.Csv

/-- A record, and where reading it began: the line counted from one, and the bytes before it. -/
structure Record where
  fields : List (List Char)
  line : Nat
  byte : Nat
deriving DecidableEq, Repr

/-- Where in a field the reader stands. -/
inductive FieldState where
  | start
  | plain
  | quoted
  | quoteSeen
deriving DecidableEq, Repr

def isTerminator (c : Char) : Bool := c == '\n' || c == '\r'

/-- The fields of a record and the text behind its terminator, given the reversed text of the field
that has begun. -/
def fieldsFrom (state : FieldState) (field : List Char) :
    List Char → List (List Char) × List Char
  | [] => ([field.reverse], [])
  | c :: rest =>
    if c = '"' ∧ state = .start then fieldsFrom .quoted field rest
    else if c = '"' ∧ state = .quoted then fieldsFrom .quoteSeen field rest
    else if state = .quoted ∨ (c = '"' ∧ state = .quoteSeen) then
      fieldsFrom .quoted (c :: field) rest
    else if c = ',' then
      let (fields, rest) := fieldsFrom .start [] rest
      (field.reverse :: fields, rest)
    else if isTerminator c then ([field.reverse], rest)
    else fieldsFrom .plain (c :: field) rest

/-- At most that many records. Blank lines belong to what a record is read from, so its place is
right behind the terminator before it. -/
def recordsFrom : Nat → (line byte : Nat) → List Char → List Record
  | 0, _, _, _ => []
  | n + 1, line, byte, cs =>
    match cs.dropWhile isTerminator with
    | [] => []
    | c :: body =>
      let (fields, rest) := fieldsFrom .start [] (c :: body)
      let taken := cs.take (cs.length - rest.length)
      ⟨fields.map Text.trim, line, byte⟩
        :: recordsFrom n (line + taken.count '\n') (byte + Text.utf8Size taken) rest

/-- The records of a text, every field without white space around it. A byte order mark in front of
the text is passed over. -/
def records (text : List Char) : List Record :=
  match text with
  | '\ufeff' :: rest => recordsFrom (rest.length + 1) 1 3 rest
  | text => recordsFrom (text.length + 1) 1 0 text

end EquityScreen.Csv
