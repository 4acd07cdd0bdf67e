import EquityScreen.Decimal.Text

/-! JSON values and their written forms. Members of an object keep their order and may repeat a
name. -/
namespace EquityScreen.Json

/-- A JSON number: a whole number without point or exponent that fits 64 bits, or a double. -/
inductive Number where
  | integer (n : Int)
  | real (x : Binary64)
deriving DecidableEq, Repr

namespace Number

def toBinary64 : Number → Binary64
  | integer n => Binary64.ofInt n
  | real x => x

def text : Number → List Char
  | integer n => (toString n).toList
  | real x => x.jsonText

end Number

inductive Value where
  | null
  | boolean (b : Bool)
  | number (n : Number)
  | string (s : List Char)
  | array (elements : List Value)
  | object (members : List (String × Value))

/-- A string without escapes. -/
def Value.ofString (s : String) : Value := .string s.toList

def Value.ofNat (n : Nat) : Value := .number (.integer n)

/-- A double as a value. JSON has no NaN and no infinities: they become null. -/
def Value.ofBinary64 (x : Binary64) : Value := if x.isFinite then .number (.real x) else .null

/-- One character of a string. Only quotes, backslashes and control characters are escaped. -/
def escapeChar (c : Char) : List Char :=
  match c with
  | '"' => ['\\', '"']
  | '\\' => ['\\', '\\']
  | '\n' => ['\\', 'n']
  | '\r' => ['\\', 'r']
  | '\t' => ['\\', 't']
  | '\x08' => ['\\', 'b']
  | '\x0c' => ['\\', 'f']
  | c =>
    if c.toNat < 0x20 then
      ['\\', 'u', '0', '0', Nat.digitChar (c.toNat / 16), Nat.digitChar (c.toNat % 16)]
    else [c]

def stringText (s : List Char) : List Char := '"' :: s.flatMap escapeChar ++ ['"']

mutual

/-- The text of a value without any white space. -/
def Value.compact : Value → List Char
  | .null => "null".toList
  | .boolean true => "true".toList
  | .boolean false => "false".toList
  | .number n => n.text
  | .string s => stringText s
  | .array elements => '[' :: compactElements elements ++ [']']
  | .object members => '\x7b' :: compactMembers members ++ ['\x7d']

def compactElements : List Value → List Char
  | [] => []
  | [v] => v.compact
  | v :: rest => v.compact ++ ',' :: compactElements rest

def compactMembers : List (String × Value) → List Char
  | [] => []
  | [(name, v)] => stringText name.toList ++ ':' :: v.compact
  | (name, v) :: rest => stringText name.toList ++ ':' :: v.compact ++ ',' :: compactMembers rest

end

/-- A line break and the indentation of a nesting depth. -/
def newLine (depth : Nat) : List Char := '\n' :: List.replicate (2 * depth) ' '

mutual

/-- The text of a value with one element or member on each line. -/
def Value.pretty (depth : Nat) : Value → List Char
  | .array (v :: rest) => '[' :: prettyElements depth (v :: rest) ++ newLine depth ++ [']']
  | .object (m :: rest) =>
    '\x7b' :: prettyMembers depth (m :: rest) ++ newLine depth ++ ['\x7d']
  | .array [] => ['[', ']']
  | .object [] => ['\x7b', '\x7d']
  | .null => "null".toList
  | .boolean true => "true".toList
  | .boolean false => "false".toList
  | .number n => n.text
  | .string s => stringText s

def prettyElements (depth : Nat) : List Value → List Char
  | [] => []
  | [v] => newLine (depth + 1) ++ v.pretty (depth + 1)
  | v :: rest => newLine (depth + 1) ++ v.pretty (depth + 1) ++ ',' :: prettyElements depth rest

def prettyMembers (depth : Nat) : List (String × Value) → List Char
  | [] => []
  | [(name, v)] =>
    newLine (depth + 1) ++ stringText name.toList ++ ':' :: ' ' :: v.pretty (depth + 1)
  | (name, v) :: rest =>
    newLine (depth + 1) ++ stringText name.toList ++ ':' :: ' ' :: v.pretty (depth + 1)
      ++ ',' :: prettyMembers depth rest

end

/-- Put a member among members that are sorted by name. -/
def insertMember (name : String) (v : Value) : List (String × Value) → List (String × Value)
  | [] => [(name, v)]
  | (other, w) :: rest =>
    if name < other then (name, v) :: (other, w) :: rest
    else (other, w) :: insertMember name v rest

mutual

/-- The value with the members of every object sorted by name. -/
def Value.sortMembers : Value → Value
  | .array elements => .array (sortElements elements)
  | .object members => .object (sortedMembers members)
  | v => v

def sortElements : List Value → List Value
  | [] => []
  | v :: rest => v.sortMembers :: sortElements rest

def sortedMembers : List (String × Value) → List (String × Value)
  | [] => []
  | (name, v) :: rest => insertMember name v.sortMembers (sortedMembers rest)

end

end EquityScreen.Json
