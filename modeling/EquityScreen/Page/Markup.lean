/-! HTML as a sequence of pieces: markup, which is written as it is, and text, which is escaped when
it is written. Values reach a page as text only, so no value can become markup. -/
namespace EquityScreen.Page

/-- One character of a text inside HTML. -/
def escapeChar : Char → List Char
  | '<' => "&lt;".toList
  | '>' => "&gt;".toList
  | '&' => "&amp;".toList
  | '"' => "&quot;".toList
  | '\'' => "&#x27;".toList
  | c => [c]

/-- A text as it stands inside HTML, in a quoted attribute or between tags. -/
def escape (s : List Char) : List Char := s.flatMap escapeChar

inductive Piece where
  | markup (s : String)
  | text (s : String)
deriving DecidableEq, Repr

/-- A page, or a part of one. -/
abbrev Html := List Piece

def Piece.render : Piece → List Char
  | markup s => s.toList
  | text s => escape s.toList

/-- The characters of a page. -/
def render (html : Html) : List Char := html.flatMap Piece.render

end EquityScreen.Page
