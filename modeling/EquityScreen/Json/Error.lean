import EquityScreen.Json.Value
import EquityScreen.Text.Blank
import EquityScreen.Text.Quoted

/-! Why a text is not the JSON that was expected, and where. An error remembers how many bytes of
the text were left when it was noticed; line and column follow from that and the text. -/
namespace EquityScreen.Json

/-- A value of another kind than the one expected. -/
inductive Found where
  | null
  | boolean (b : Bool)
  | number (n : Number)
  | string (s : List Char)
  | sequence
  | map
deriving DecidableEq, Repr

inductive Fault where
  | endInValue
  | endInList
  | endInObject
  | endInString
  | expectedColon
  | expectedCommaInList
  | expectedCommaInObject
  | expectedWord
  | expectedValue
  | keyNotString
  | trailingComma
  | trailingCharacters
  | invalidNumber
  | numberOutOfRange
  | invalidEscape
  | cutSurrogatePair
  | loneSurrogate
  | controlCharacter
  | tooDeep
  | missingField (name : String)
  | duplicateField (name : String)
  | unknownVariant (name : List Char) (variants : List String)
  | invalidType (found : Found) (expected : String)
  | invalidLength (length : Nat) (expected : String)
deriving DecidableEq, Repr

/-- A name between backquotes. -/
def backquoted (s : String) : String := "\x60" ++ s ++ "\x60"

def Found.message : Found → String
  | null => "null"
  | boolean b => "boolean " ++ backquoted (toString b)
  | number (.integer n) => "integer " ++ backquoted (toString n)
  | number (.real x) => "floating point " ++ backquoted (String.ofList x.jsonText)
  | string s => "string " ++ String.ofList (Text.quoted s)
  | sequence => "sequence"
  | map => "map"

def Fault.message : Fault → String
  | endInValue => "EOF while parsing a value"
  | endInList => "EOF while parsing a list"
  | endInObject => "EOF while parsing an object"
  | endInString => "EOF while parsing a string"
  | expectedColon => "expected " ++ backquoted ":"
  | expectedCommaInList => "expected " ++ backquoted "," ++ " or " ++ backquoted "]"
  | expectedCommaInObject => "expected " ++ backquoted "," ++ " or " ++ backquoted "\x7d"
  | expectedWord => "expected ident"
  | expectedValue => "expected value"
  | keyNotString => "key must be a string"
  | trailingComma => "trailing comma"
  | trailingCharacters => "trailing characters"
  | invalidNumber => "invalid number"
  | numberOutOfRange => "number out of range"
  | invalidEscape => "invalid escape"
  | cutSurrogatePair => "unexpected end of hex escape"
  | loneSurrogate => "lone leading surrogate in hex escape"
  | controlCharacter => "control character (\\u0000-\\u001F) found while parsing a string"
  | tooDeep => "recursion limit exceeded"
  | missingField name => "missing field " ++ backquoted name
  | duplicateField name => "duplicate field " ++ backquoted name
  | unknownVariant name variants =>
    "unknown variant " ++ backquoted (String.ofList name) ++ ", expected one of "
      ++ ", ".intercalate (variants.map backquoted)
  | invalidType found expected => "invalid type: " ++ found.message ++ ", expected " ++ expected
  | invalidLength length expected =>
    "invalid length " ++ toString length ++ ", expected " ++ expected

/-- A fault, and the number of bytes left when it was noticed. -/
structure Error where
  fault : Fault
  left : Nat
deriving DecidableEq, Repr

/-- Line and column of a byte position: lines are counted from one, the column is the number of
bytes since the last line feed. -/
def lineAndColumn (position : Nat) (text : List Char) : Nat × Nat :=
  let (_, line, start) := text.foldl (fun (offset, line, start) c =>
    let next := offset + c.utf8Size
    if c == '\n' && decide (offset < position) then (next, line + 1, next) else (next, line, start))
    (0, 1, 0)
  (line, position - start)

/-- The message of an error, with its place in the text that was read. -/
def Error.located (e : Error) (text : List Char) : String :=
  let (line, column) := lineAndColumn (Text.utf8Size text - e.left) text
  e.fault.message ++ " at line " ++ toString line ++ " column " ++ toString column

end EquityScreen.Json
