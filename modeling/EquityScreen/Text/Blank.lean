import EquityScreen.Text.Ranges

/-! White space, trimming and the sizes of texts. A text is a list of characters; a position in a
text is the number of UTF-8 bytes before it. -/
namespace EquityScreen.Text

/-- The code points with the Unicode property `White_Space`. -/
def blankRanges : List (Nat × Nat) :=
  [(0x09, 0x0D), (0x20, 0x20), (0x85, 0x85), (0xA0, 0xA0), (0x1680, 0x1680), (0x2000, 0x200A),
    (0x2028, 0x2029), (0x202F, 0x202F), (0x205F, 0x205F), (0x3000, 0x3000)]

def isBlank (c : Char) : Bool := inRanges blankRanges c

def trimStart (cs : List Char) : List Char := cs.dropWhile isBlank

def trimEnd (cs : List Char) : List Char := (cs.reverse.dropWhile isBlank).reverse

/-- The text without the white space at both ends. -/
def trim (cs : List Char) : List Char := trimEnd (trimStart cs)

/-- The text without the white space at both ends. -/
def trimString (s : String) : String := String.ofList (trim s.toList)

/-- The number of bytes that a text takes in UTF-8. -/
def utf8Size : List Char → Nat
  | [] => 0
  | c :: cs => c.utf8Size + utf8Size cs

/-- Drop one carriage return at the end of a line. -/
def dropCarriageReturn (line : List Char) : List Char :=
  if line.getLast? = some '\r' then line.dropLast else line

/-- The lines of a text, each without its line feed or carriage return and line feed. A line feed
at the very end of the text starts no further line. -/
def lines (cs : List Char) : List (List Char) :=
  let pieces := cs.splitOnP (· == '\n')
  match pieces.getLast? with
  | some [] => pieces.dropLast.map dropCarriageReturn
  | some lastLine => pieces.dropLast.map dropCarriageReturn ++ [lastLine]
  | none => []

/-- Switch a capital of the Latin alphabet to its small letter. -/
def asciiLower (c : Char) : Char := c.toLower

/-- The texts are equal up to the case of ASCII letters. -/
def sameIgnoringAsciiCase (a b : List Char) : Bool := a.map asciiLower == b.map asciiLower

end EquityScreen.Text
