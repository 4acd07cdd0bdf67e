import EquityScreen.Decimal.Numeral
import EquityScreen.Json.Error

/-! Reading JSON from the front of a text. A reader gives a value and the text after it, or the
first error in reading order. Loops over elements, members and characters count down from the length
of the text, of which every round takes at least one character. -/
namespace EquityScreen.Json

/-- Reads something off the front of a text. -/
abbrev Reader (α : Type) := List Char → Except Error (α × List Char)

/-- An error noticed in front of a text. -/
def errorAt (fault : Fault) (rest : List Char) : Except Error α :=
  .error ⟨fault, Text.utf8Size rest⟩

/-- An error noticed on the next byte of a text. -/
def errorOn (fault : Fault) (rest : List Char) : Except Error α :=
  .error ⟨fault, Text.utf8Size rest - 1⟩

def isBlank (c : Char) : Bool := c == ' ' || c == '\n' || c == '\t' || c == '\r'

def skipBlanks (cs : List Char) : List Char := cs.dropWhile isBlank

/-- Read the characters of a word one by one. -/
def word : List Char → List Char → Except Error (List Char)
  | [], rest => .ok rest
  | _ :: _, [] => errorAt .endInValue []
  | c :: cs, d :: rest => if c == d then word cs rest else errorOn .expectedWord (d :: rest)

/-! ### Strings -/

def hexDigit? (c : Char) : Option Nat :=
  if '0' ≤ c ∧ c ≤ '9' then some (c.toNat - 48)
  else if 'A' ≤ c ∧ c ≤ 'F' then some (c.toNat - 55)
  else if 'a' ≤ c ∧ c ≤ 'f' then some (c.toNat - 87)
  else none

/-- The value of four hexadecimal digits. -/
def hexDigits? : List Char → Option (Nat × List Char)
  | a :: b :: c :: d :: rest =>
    match hexDigit? a, hexDigit? b, hexDigit? c, hexDigit? d with
    | some a, some b, some c, some d => some (((a * 16 + b) * 16 + c) * 16 + d, rest)
    | _, _, _, _ => none
  | _ => none

/-- Read four hexadecimal digits of an escape. -/
def hexEscape : Reader Nat := fun cs =>
  match hexDigits? cs with
  | some r => .ok r
  | none =>
    if Text.utf8Size cs < 4 then errorAt .endInString []
    else .error ⟨.invalidEscape, Text.utf8Size cs - 4⟩

/-- Read a character given by hexadecimal digits. Characters past the 16-bit ones are written as a
surrogate pair, and a surrogate never stands alone. -/
def hexChar : Reader Char := fun cs => do
  let (n, rest) ← hexEscape cs
  if 0xDC00 ≤ n ∧ n ≤ 0xDFFF then errorAt .loneSurrogate rest
  else if n < 0xD800 ∨ 0xDBFF < n then .ok (Char.ofNat n, rest)
  else
    match rest with
    | '\\' :: 'u' :: rest =>
      let (low, rest) ← hexEscape rest
      if low < 0xDC00 ∨ 0xDFFF < low then errorAt .loneSurrogate rest
      else .ok (Char.ofNat ((n - 0xD800) * 0x400 + (low - 0xDC00) + 0x10000), rest)
    | [] | ['\\'] => errorAt .endInString []
    | '\\' :: rest => errorOn .cutSurrogatePair rest
    | rest => errorOn .cutSurrogatePair rest

/-- The character that a letter after a backslash stands for. -/
def simpleEscape? : Char → Option Char
  | '"' => some '"'
  | '\\' => some '\\'
  | '/' => some '/'
  | 'b' => some '\x08'
  | 'f' => some '\x0c'
  | 'n' => some '\n'
  | 'r' => some '\r'
  | 't' => some '\t'
  | _ => none

/-- Read one character of a string; `none` is its closing quote. -/
def stringChar : Reader (Option Char)
  | [] => errorAt .endInString []
  | '"' :: rest => .ok (none, rest)
  | ['\\'] => errorAt .endInString []
  | '\\' :: 'u' :: rest => do
    let (c, rest) ← hexChar rest
    .ok (some c, rest)
  | '\\' :: e :: rest =>
    match simpleEscape? e with
    | some c => .ok (some c, rest)
    | none => errorOn .invalidEscape (e :: rest)
  | c :: rest =>
    if c.toNat < 0x20 then errorOn .controlCharacter (c :: rest) else .ok (some c, rest)

/-- Read at most that many characters of a string, up to its closing quote. -/
def stringChars : Nat → Reader (List Char)
  | 0, rest => errorAt .endInString rest
  | n + 1, rest => do
    match ← stringChar rest with
    | (none, rest) => .ok ([], rest)
    | (some c, rest) =>
      let (cs, rest) ← stringChars n rest
      .ok (c :: cs, rest)

/-- Read a string, of which the opening quote has been taken. -/
def stringBody : Reader (List Char) := fun rest => stringChars (rest.length + 1) rest

/-! ### Numbers -/

/-- Read the fraction of a number, if there is one. -/
def fractionPart : Reader (Option (List Char))
  | '.' :: rest =>
    let (digits, after) := spanDigits rest
    if digits.isEmpty then
      if after.isEmpty then errorAt .endInValue after else errorOn .invalidNumber after
    else .ok (some digits, after)
  | rest => .ok (none, rest)

/-- The greatest exponent that a number may be written with, unless it is zero. -/
def maxExponent : Nat := 2 ^ 31 - 1

/-- What follows the first digit with which an exponent passes the greatest one, if it does. The
digits before stand for `n`. -/
def afterMaxExponent? (n : Nat) : List Char → Option (List Char)
  | [] => none
  | c :: rest =>
    if c.isDigit then
      let n := 10 * n + (c.toNat - '0'.toNat)
      if maxExponent < n then some rest else afterMaxExponent? n rest
    else none

/-- Read the exponent of a number, if there is one. A number that is not zero is refused as soon as
its exponent passes the greatest one. -/
def exponentPart (isZero : Bool) : Reader (Option Int)
  | e :: rest =>
    if e = 'e' ∨ e = 'E' then
      let (negative, rest) := splitSign rest
      let (digits, after) := spanDigits rest
      if digits.isEmpty then
        if after.isEmpty then errorAt .endInValue after else errorOn .invalidNumber after
      else
        let n : Int := Decimal.digitsValue digits
        match afterMaxExponent? 0 rest with
        | some unread =>
          if negative then .ok (some (-n), after)
          else if isZero then .ok (some n, after)
          else errorAt .numberOutOfRange unread
        | none => .ok (some (if negative then -n else n), after)
    else .ok (none, e :: rest)
  | [] => .ok (none, [])

/-- Read the digits before the point, of which there is one at least. A zero stands alone. -/
def wholePart : Reader (List Char)
  | [] => errorAt .endInValue []
  | '0' :: rest =>
    if rest.head?.any Char.isDigit then errorOn .invalidNumber rest else .ok (['0'], rest)
  | c :: rest =>
    if c.isDigit then .ok (spanDigits (c :: rest)) else errorOn .invalidNumber (c :: rest)

/-- The whole number that digits stand for, if it fits 64 bits, as a signed number below zero and
as an unsigned one otherwise. There is no negative zero among whole numbers. -/
def wholeNumber? (negative : Bool) (digits : List Char) : Option Int :=
  let n := Decimal.digitsValue digits
  if negative then if 0 < n ∧ n ≤ 2 ^ 63 then some (-n) else none
  else if n < 2 ^ 64 then some n else none

/-- The number with given parts. It must be in the range of finite doubles. -/
def numberOfParts (negative : Bool) (whole : List Char) (fraction : Option (List Char))
    (exponent : Option Int) (rest : List Char) : Except Error (Number × List Char) :=
  match fraction, exponent, wholeNumber? negative whole with
  | none, none, some n => .ok (.integer n, rest)
  | _, _, _ =>
    let x := (Decimal.ofDigits whole (fraction.getD []) (exponent.getD 0)).toBinary64 negative
    if x.isFinite then .ok (.real x, rest) else errorAt .numberOutOfRange rest

/-- Read a number, which starts with a minus sign or a digit. -/
def number : Reader Number := fun cs => do
  let (negative, rest) := match cs with
    | '-' :: rest => (true, rest)
    | rest => (false, rest)
  let (whole, rest) ← wholePart rest
  let (fraction, rest) ← fractionPart rest
  let isZero := Decimal.digitsValue (whole ++ fraction.getD []) == 0
  let (exponent, rest) ← exponentPart isZero rest
  numberOfParts negative whole fraction exponent rest

/-! ### Arrays and objects -/

/-- Step to the next element of an array: the text in front of it, or `none` before the closing
bracket. -/
def nextElement (isFirst : Bool) (cs : List Char) : Except Error (Option (List Char)) :=
  match skipBlanks cs with
  | [] => errorAt .endInList []
  | ']' :: _ => .ok none
  | c :: rest =>
    if isFirst then .ok (some (c :: rest))
    else if c = ',' then
      match skipBlanks rest with
      | [] => errorAt .endInValue []
      | ']' :: rest => errorOn .trailingComma (']' :: rest)
      | rest => .ok (some rest)
    else errorOn .expectedCommaInList (c :: rest)

/-- Step to the next member of an object: the text after the opening quote of its name, or `none`
before the closing brace. -/
def nextMember (isFirst : Bool) (cs : List Char) : Except Error (Option (List Char)) :=
  match skipBlanks cs with
  | [] => errorAt .endInObject []
  | '\x7d' :: _ => .ok none
  | c :: rest =>
    if isFirst then if c = '"' then .ok (some rest) else errorOn .keyNotString (c :: rest)
    else if c = ',' then
      match skipBlanks rest with
      | [] => errorAt .endInValue []
      | '"' :: rest => .ok (some rest)
      | '\x7d' :: rest => errorOn .trailingComma ('\x7d' :: rest)
      | rest => errorOn .keyNotString rest
    else errorOn .expectedCommaInObject (c :: rest)

/-- Read the colon between a name and its value. -/
def colon (cs : List Char) : Except Error (List Char) :=
  match skipBlanks cs with
  | [] => errorAt .endInObject []
  | ':' :: rest => .ok rest
  | rest => errorOn .expectedColon rest

/-- Read the closing bracket of an array that should have no further elements. -/
def closeArray (cs : List Char) : Except Error (List Char) :=
  match skipBlanks cs with
  | [] => errorAt .endInList []
  | ']' :: rest => .ok rest
  | ',' :: rest =>
    match skipBlanks rest with
    | ']' :: rest => errorOn .trailingComma (']' :: rest)
    | rest => errorOn .trailingCharacters rest
  | rest => errorOn .trailingCharacters rest

/-- Read the closing brace of an object. -/
def closeObject (cs : List Char) : Except Error (List Char) :=
  match skipBlanks cs with
  | [] => errorAt .endInObject []
  | '\x7d' :: rest => .ok rest
  | ',' :: rest => errorOn .trailingComma (',' :: rest)
  | rest => errorOn .trailingCharacters rest

/-- A fault of a whole array or object is placed behind its closing mark, if that comes next. -/
def errorAtClose (fault : Fault) (close : Char) (cs : List Char) : Except Error α :=
  match skipBlanks cs with
  | [] => errorAt fault []
  | c :: rest => if c = close then errorAt fault rest else errorAt fault (c :: rest)

/-- Read at most that many elements, `step` taking each into an account of those before. -/
def elementsFrom (step : σ → Reader σ) : Nat → Bool → σ → Reader σ
  | 0, _, _, rest => errorAt .endInList rest
  | n + 1, isFirst, account, rest => do
    match ← nextElement isFirst rest with
    | none =>
      let rest ← closeArray rest
      .ok (account, rest)
    | some rest =>
      let (account, rest) ← step account rest
      elementsFrom step n false account rest

/-- Read the elements of an array, of which the opening bracket has been taken. -/
def elements (step : σ → Reader σ) (start : σ) : Reader σ := fun rest =>
  elementsFrom step (rest.length + 1) true start rest

/-- Read at most that many members, `step` taking the name and the text after it into an account
of the members before. -/
def membersFrom (step : List Char → σ → Reader σ) : Nat → Bool → σ → Reader σ
  | 0, _, _, rest => errorAt .endInObject rest
  | n + 1, isFirst, account, rest => do
    match ← nextMember isFirst rest with
    | none => .ok (account, rest)
    | some rest =>
      let (name, rest) ← stringBody rest
      let (account, rest) ← step name account rest
      membersFrom step n false account rest

/-- Read the members of an object up to its closing brace, which is left in place. The opening
brace has been taken. -/
def members (step : List Char → σ → Reader σ) (start : σ) : Reader σ := fun rest =>
  membersFrom step (rest.length + 1) true start rest

/-! ### Values -/

/-- The number of arrays and objects that may be nested in one another. -/
def maxDepth : Nat := 127

/-- Read any value, with at most `depth` arrays and objects inside one another. -/
def value (depth : Nat) : Reader Value := fun cs =>
  match skipBlanks cs with
  | [] => errorAt .endInValue []
  | 'n' :: rest => do .ok (.null, ← word "ull".toList rest)
  | 't' :: rest => do .ok (.boolean true, ← word "rue".toList rest)
  | 'f' :: rest => do .ok (.boolean false, ← word "alse".toList rest)
  | '"' :: rest => do
    let (s, rest) ← stringBody rest
    .ok (.string s, rest)
  | '[' :: rest =>
    match depth with
    | 0 => errorOn .tooDeep ('[' :: rest)
    | depth + 1 => do
      let (reversed, rest) ← elements (fun before rest => do
        let (v, rest) ← value depth rest
        .ok (v :: before, rest)) [] rest
      .ok (.array reversed.reverse, rest)
  | '\x7b' :: rest =>
    match depth with
    | 0 => errorOn .tooDeep ('\x7b' :: rest)
    | depth + 1 => do
      let (reversed, rest) ← members (fun name before rest => do
        let (v, rest) ← value depth (← colon rest)
        .ok ((String.ofList name, v) :: before, rest)) [] rest
      .ok (.object reversed.reverse, ← closeObject rest)
  | c :: rest =>
    if c = '-' ∨ c.isDigit then do
      let (n, rest) ← number (c :: rest)
      .ok (.number n, rest)
    else errorOn .expectedValue (c :: rest)

/-- The value next in the text is not of the kind expected. A value that has no sound start is
reported for what is wrong with it. -/
def wrongType (expected : String) (cs : List Char) : Except Error α := do
  let mismatch (found : Found) (rest : List Char) : Except Error α :=
    errorAt (.invalidType found expected) rest
  match cs with
  | 'n' :: rest => mismatch .null (← word "ull".toList rest)
  | 't' :: rest => mismatch (.boolean true) (← word "rue".toList rest)
  | 'f' :: rest => mismatch (.boolean false) (← word "alse".toList rest)
  | '"' :: rest =>
    let (s, rest) ← stringBody rest
    mismatch (.string s) rest
  | '[' :: rest => mismatch .sequence ('[' :: rest)
  | '\x7b' :: rest => mismatch .map ('\x7b' :: rest)
  | c :: rest =>
    if c = '-' ∨ c.isDigit then
      let (n, rest) ← number (c :: rest)
      mismatch (.number n) rest
    else errorOn .expectedValue (c :: rest)
  | [] => errorOn .expectedValue []

/-- Read a string that is expected. -/
def string (expected : String) : Reader (List Char) := fun cs =>
  match skipBlanks cs with
  | [] => errorAt .endInValue []
  | '"' :: rest => stringBody rest
  | rest => wrongType expected rest

/-- Read a whole text with a reader: nothing but white space may follow. -/
def readAll (reader : Reader α) (text : List Char) : Except Error α := do
  let (x, rest) ← reader text
  match skipBlanks rest with
  | [] => .ok x
  | rest => errorOn .trailingCharacters rest

end EquityScreen.Json
