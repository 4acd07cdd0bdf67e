import EquityScreen.Json.Reader

/-! Passing over a value that nobody asks for. The value must be sound JSON, but it may be nested to
any depth, its numbers may be of any size, and its escapes are not put together to characters. The
arrays and objects that are open are kept in a list, innermost first. -/
namespace EquityScreen.Json

/-- An array or object that has been opened. -/
inductive Opened where
  | array
  | object
deriving DecidableEq, Repr

namespace Opened

def close : Opened → Char
  | array => ']'
  | object => '\x7d'

def endFault : Opened → Fault
  | array => .endInList
  | object => .endInObject

def commaFault : Opened → Fault
  | array => .expectedCommaInList
  | object => .expectedCommaInObject

end Opened

/-- Pass over one character of a string; the answer tells whether it was the closing quote. -/
def skipStringChar : Reader Bool
  | [] => errorAt .endInString []
  | '"' :: rest => .ok (true, rest)
  | ['\\'] => errorAt .endInString []
  | '\\' :: 'u' :: rest => do
    let (_, rest) ← hexEscape rest
    .ok (false, rest)
  | '\\' :: e :: rest =>
    if (simpleEscape? e).isSome then .ok (false, rest) else errorOn .invalidEscape (e :: rest)
  | c :: rest => if c.toNat < 0x20 then errorAt .controlCharacter (c :: rest) else .ok (false, rest)

/-- Pass over at most that many characters of a string, up to its closing quote. -/
def skipStringChars : Nat → List Char → Except Error (List Char)
  | 0, rest => errorAt .endInString rest
  | n + 1, rest => do
    match ← skipStringChar rest with
    | (true, rest) => .ok rest
    | (false, rest) => skipStringChars n rest

def skipString (rest : List Char) : Except Error (List Char) :=
  skipStringChars (rest.length + 1) rest

/-- Pass over the digits of an exponent, of which one at least is needed. -/
def skipExponent (rest : List Char) : Except Error (List Char) :=
  let (_, rest) := splitSign rest
  let (digits, after) := spanDigits rest
  if digits.isEmpty then errorOn .invalidNumber after else .ok after

/-- Pass over the digits in front of the point. -/
def skipWhole : List Char → Except Error (List Char)
  | '0' :: rest => if rest.head?.any Char.isDigit then errorOn .invalidNumber rest else .ok rest
  | c :: rest => if c.isDigit then .ok (spanDigits rest).2 else errorOn .invalidNumber (c :: rest)
  | [] => errorOn .invalidNumber []

/-- Pass over a point and the digits behind it, if there is a point. -/
def skipFraction : List Char → Except Error (List Char)
  | '.' :: rest =>
    let (digits, after) := spanDigits rest
    if digits.isEmpty then errorOn .invalidNumber after else .ok after
  | rest => .ok rest

/-- Pass over the mark of an exponent and its digits, if there is a mark. -/
def skipPower (rest : List Char) : Except Error (List Char) :=
  match rest with
  | e :: after => if e = 'e' ∨ e = 'E' then skipExponent after else .ok rest
  | [] => .ok []

/-- Pass over a number without its sign. -/
def skipNumber (cs : List Char) : Except Error (List Char) := do
  skipPower (← skipFraction (← skipWhole cs))

/-- Pass over the name of a member and its colon. -/
def skipKey (cs : List Char) : Except Error (List Char) :=
  match skipBlanks cs with
  | [] => errorAt .endInObject []
  | '"' :: rest => do colon (← skipString rest)
  | rest => errorOn .keyNotString rest

/-- What to do next: pass over a value, or go on behind one. -/
inductive SkipStep where
  | value
  | afterValue
deriving DecidableEq, Repr

/-- Begin a value: pass over it if it is a simple one, or open it. -/
def skipStart (opened : List Opened) (cs : List Char) :
    Except Error (SkipStep × List Opened × List Char) :=
  let simple (rest : Except Error (List Char)) := do .ok (.afterValue, opened, ← rest)
  match skipBlanks cs with
  | [] => errorAt .endInValue []
  | 'n' :: rest => simple (word "ull".toList rest)
  | 't' :: rest => simple (word "rue".toList rest)
  | 'f' :: rest => simple (word "alse".toList rest)
  | '-' :: rest => simple (skipNumber rest)
  | '"' :: rest => simple (skipString rest)
  | '[' :: rest =>
    match skipBlanks rest with
    | [] => errorAt .endInList []
    | ']' :: rest => .ok (.afterValue, opened, rest)
    | rest => .ok (.value, .array :: opened, rest)
  | '\x7b' :: rest =>
    match skipBlanks rest with
    | [] => errorAt .endInObject []
    | '\x7d' :: rest => .ok (.afterValue, opened, rest)
    | rest => do .ok (.value, .object :: opened, ← skipKey rest)
  | c :: rest =>
    if c.isDigit then simple (skipNumber (c :: rest)) else errorOn .expectedValue (c :: rest)

/-- Go on behind a value inside the innermost array or object: close that, or take a comma. -/
def skipOn (innermost : Opened) (outer : List Opened) (cs : List Char) :
    Except Error (SkipStep × List Opened × List Char) :=
  match skipBlanks cs with
  | [] => errorAt innermost.endFault []
  | ',' :: rest =>
    match innermost with
    | .array => .ok (.value, innermost :: outer, rest)
    | .object => do .ok (.value, innermost :: outer, ← skipKey rest)
  | c :: rest =>
    if c = innermost.close then .ok (.afterValue, outer, rest)
    else errorOn innermost.commaFault (c :: rest)

/-- Take at most that many steps until nothing is open. -/
def skipSteps : Nat → SkipStep → List Opened → List Char → Except Error (List Char)
  | _, .afterValue, [], rest => .ok rest
  | 0, _, _, rest => errorAt .endInValue rest
  | n + 1, .value, opened, rest => do
    let (step, opened, rest) ← skipStart opened rest
    skipSteps n step opened rest
  | n + 1, .afterValue, innermost :: outer, rest => do
    let (step, opened, rest) ← skipOn innermost outer rest
    skipSteps n step opened rest

/-- Pass over one value. Every step takes at least one character. -/
def skipValue (cs : List Char) : Except Error (List Char) :=
  skipSteps (cs.length + 1) .value [] cs

end EquityScreen.Json
