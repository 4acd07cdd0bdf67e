import EquityScreen.Decimal.Numeral

/-! Addresses to listen on: an IP address and a port. Four numbers separated by points make an
address of the fourth version; eight hexadecimal groups in brackets make one of the sixth, where one
run of zero groups may be written as two colons and the last two groups as four numbers. -/
namespace EquityScreen.Config

inductive SocketAddress where
  | v4 (octets : List Nat) (port : Nat)
  | v6 (groups : List Nat) (scope port : Nat)
deriving DecidableEq, Repr

namespace SocketAddress

/-- Takes something off the front of a text, if it is there. -/
abbrev Taker (α : Type) := List Char → Option (α × List Char)

/-- The value of a digit in a base up to sixteen. -/
def digit? (base : Nat) (c : Char) : Option Nat :=
  let n :=
    if '0' ≤ c ∧ c ≤ '9' then c.toNat - 48
    else if 'a' ≤ c ∧ c ≤ 'f' then c.toNat - 87
    else if 'A' ≤ c ∧ c ≤ 'F' then c.toNat - 55
    else 16
  if n < base then some n else none

/-- The digits in front of a text as a number, how many there are, and the text after them. -/
def spanNumber (base : Nat) (value count : Nat) : List Char → Nat × Nat × List Char
  | [] => (value, count, [])
  | c :: rest =>
    match digit? base c with
    | some d => spanNumber base (value * base + d) (count + 1) rest
    | none => (value, count, c :: rest)

/-- Take a number of at most `maxDigits` digits that is not above `limit`. -/
def takeNumber (base limit : Nat) (maxDigits : Option Nat) (leadingZeros : Bool) : Taker Nat :=
  fun cs =>
    let (value, count, rest) := spanNumber base 0 0 cs
    if count = 0 ∨ maxDigits.any (· < count) ∨ limit < value then none
    else if !leadingZeros ∧ cs.head? = some '0' ∧ 1 < count then none
    else some (value, rest)

/-- Take a given character. -/
def takeChar (c : Char) : List Char → Option (List Char)
  | d :: rest => if d = c then some rest else none
  | [] => none

def takeOctet : Taker Nat := takeNumber 10 255 (some 3) false

/-- Take four numbers separated by points. -/
def takeV4 : Taker (List Nat) := fun cs => do
  let (a, cs) ← takeOctet cs
  let (b, cs) ← takeOctet (← takeChar '.' cs)
  let (c, cs) ← takeOctet (← takeChar '.' cs)
  let (d, cs) ← takeOctet (← takeChar '.' cs)
  return ([a, b, c, d], cs)

def takeGroup : Taker Nat := takeNumber 16 0xFFFF (some 4) true

/-- Take up to `room` groups separated by colons, the first of them without a colon if `isFirst`.
Four numbers in place of the last two groups end the row, and the answer tells whether they did. -/
def takeGroups : Nat → Bool → List Char → List Nat × Bool × List Char
  | 0, _, cs => ([], false, cs)
  | room + 1, isFirst, cs =>
    match if isFirst then some cs else takeChar ':' cs with
    | none => ([], false, cs)
    | some body =>
      match if room = 0 then none else takeV4 body with
      | some ([a, b, c, d], rest) => ([256 * a + b, 256 * c + d], true, rest)
      | _ =>
        match takeGroup body with
        | none => ([], false, cs)
        | some (group, rest) =>
          let (groups, ended, rest) := takeGroups room false rest
          (group :: groups, ended, rest)

/-- Take the groups of an address of the sixth version. -/
def takeV6 : Taker (List Nat) := fun cs =>
  let (head, ended, rest) := takeGroups 8 true cs
  if head.length = 8 then some (head, rest)
  else if ended then none
  else do
    let rest ← takeChar ':' (← takeChar ':' rest)
    let (tail, _, rest) := takeGroups (7 - head.length) true rest
    return (head ++ List.replicate (8 - head.length - tail.length) 0 ++ tail, rest)

def takePort : Taker Nat := fun cs => do takeNumber 10 0xFFFF none true (← takeChar ':' cs)

/-- Take the scope of an address, which is zero where none is given. -/
def takeScope (cs : List Char) : Nat × List Char :=
  match do takeNumber 10 0xFFFFFFFF none true (← takeChar '%' cs) with
  | some r => r
  | none => (0, cs)

def takeAddress : Taker SocketAddress := fun cs =>
  let fourth := do
    let (octets, cs) ← takeV4 cs
    let (port, cs) ← takePort cs
    return (v4 octets port, cs)
  let sixth := do
    let (groups, cs) ← takeV6 (← takeChar '[' cs)
    let (scope, cs) := takeScope cs
    let (port, cs) ← takePort (← takeChar ']' cs)
    return (v6 groups scope port, cs)
  fourth.or sixth

/-- The address that a whole text names. -/
def parse? (text : List Char) : Option SocketAddress :=
  match takeAddress text with
  | some (address, []) => some address
  | _ => none

def octetsText (octets : List Nat) : String := ".".intercalate (octets.map toString)

def groupText (group : Nat) : String := String.ofList (Nat.toDigits 16 group)

def groupsText (groups : List Nat) : String := ":".intercalate (groups.map groupText)

/-- The length of the run of zeros in front of a list. -/
def leadingZeros (groups : List Nat) : Nat := (groups.takeWhile (· == 0)).length

/-- Start and length of the first of the longest runs of zeros, the list starting at `start`. -/
def longestZeros (start : Nat) : List Nat → Nat × Nat
  | [] => (start, 0)
  | g :: groups =>
    let here := leadingZeros (g :: groups)
    let later := longestZeros (start + 1) groups
    if later.2 ≤ here then (start, here) else later

/-- The text of an address of the sixth version. The longest run of two or more zero groups becomes
two colons, and addresses that stand for one of the fourth version show its numbers. -/
def v6Text (groups : List Nat) : String :=
  match groups with
  | [0, 0, 0, 0, 0, 0xFFFF, high, low] =>
    "::ffff:" ++ octetsText [high / 256, high % 256, low / 256, low % 256]
  | groups =>
    let (start, length) := longestZeros 0 groups
    if 1 < length then
      groupsText (groups.take start) ++ "::" ++ groupsText (groups.drop (start + length))
    else groupsText groups

def text : SocketAddress → String
  | v4 octets port => octetsText octets ++ ":" ++ toString port
  | v6 groups scope port =>
    "[" ++ v6Text groups ++ (if scope = 0 then "" else "%" ++ toString scope) ++ "]:"
      ++ toString port

/-- What is said of a text that names no address. -/
def faultMessage : String := "invalid socket address syntax"

end SocketAddress

end EquityScreen.Config
