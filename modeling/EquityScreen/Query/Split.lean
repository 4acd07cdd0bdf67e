import EquityScreen.Text.Blank
import EquityScreen.Text.Alphanumeric

/-! The clauses of a query. Clauses are separated by line breaks and by the word AND in any ASCII
case where it stands alone; white space around a clause and empty clauses do not count. -/
namespace EquityScreen.Query

def isLineBreak (c : Char) : Bool := c == '\n' || c == '\r'

/-- A character that a word can hold: a letter, a number or an underscore. -/
def isWordChar (c : Char) : Bool := Text.isAlphanumeric c || c == '_'

/-- The three characters are the word AND, and no word character touches them on either side. -/
def isSeparateAnd (before : Option Char) (a n d : Char) (after : Option Char) : Bool :=
  !before.any isWordChar && Text.sameIgnoringAsciiCase [a, n, d] ['A', 'N', 'D']
    && !after.any isWordChar

/-- Put a character in front of the first segment. -/
def consSegment (c : Char) : List (List Char) → List (List Char)
  | [] => [[c]]
  | segment :: segments => (c :: segment) :: segments

/-- The texts between the separators, given the character before the text. There is one more of
them than there are separators. -/
def segments (before : Option Char) : List Char → List (List Char)
  | [] => [[]]
  | a :: rest =>
    if isLineBreak a then [] :: segments (some a) rest
    else
      match rest with
      | n :: d :: after =>
        if isSeparateAnd before a n d after.head? then [] :: segments (some d) after
        else consSegment a (segments (some a) (n :: d :: after))
      | rest => consSegment a (segments (some a) rest)

/-- The clauses of a query text in their order. -/
def splitClauses (text : List Char) : List (List Char) :=
  ((segments none text).map Text.trim).filter fun clause => !clause.isEmpty

end EquityScreen.Query
