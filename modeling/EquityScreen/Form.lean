import EquityScreen.Text.Utf8

/-! Form encoding, as browsers send form fields in the query part of an address: pairs separated by
ampersands, name and value by the first equals sign, spaces as plus signs, and every other byte
outside a small set of ASCII characters as a percent sign and two hexadecimal digits. -/
namespace EquityScreen.Form

/-- The byte is written as it is: a letter or digit, or one of four marks. -/
def isPlainByte (b : UInt8) : Bool :=
  let c := Char.ofNat b.toNat
  c.isAlphanum || c == '*' || c == '-' || c == '.' || c == '_'

/-- A hexadecimal digit in capitals. -/
def hexDigit (n : Nat) : Char := if n < 10 then Char.ofNat (48 + n) else Char.ofNat (55 + n)

def encodeByte (b : UInt8) : List Char :=
  if isPlainByte b then [Char.ofNat b.toNat]
  else if b = 0x20 then ['+']
  else ['%', hexDigit (b.toNat / 16), hexDigit (b.toNat % 16)]

/-- Encode a name or a value. -/
def encode (text : List Char) : List Char := (Text.utf8Bytes text).flatMap encodeByte

/-- The value of a hexadecimal digit in either case. -/
def hexValue? (b : UInt8) : Option Nat :=
  let n := b.toNat
  if 48 ≤ n ∧ n ≤ 57 then some (n - 48)
  else if 65 ≤ n ∧ n ≤ 70 then some (n - 55)
  else if 97 ≤ n ∧ n ≤ 102 then some (n - 87)
  else none

/-- The bytes that an encoded name or value stands for. A percent sign without two hexadecimal
digits stands for itself. -/
def decodeBytes : List UInt8 → List UInt8
  | [] => []
  | b :: rest =>
    if b = 0x2B then 0x20 :: decodeBytes rest
    else if b = 0x25 then
      match rest with
      | h :: l :: after =>
        match hexValue? h, hexValue? l with
        | some h', some l' => UInt8.ofNat (16 * h' + l') :: decodeBytes after
        | _, _ => b :: decodeBytes (h :: l :: after)
      | rest => b :: decodeBytes rest
    else b :: decodeBytes rest

/-- Decode a name or a value; bytes that are no UTF-8 become replacement characters. -/
def decode (bytes : List UInt8) : List Char := Text.decodeUtf8Lossy (decodeBytes bytes)

/-- Name and value of one piece between ampersands. -/
def decodePair (piece : List UInt8) : String × String :=
  (String.ofList (decode (piece.takeWhile (· != 0x3D))),
    String.ofList (decode ((piece.dropWhile (· != 0x3D)).drop 1)))

/-- The pairs of an encoded text. Empty pieces between ampersands are passed over. -/
def parse (text : List Char) : List (String × String) :=
  (((Text.utf8Bytes text).splitOnP (· == 0x26)).filter fun piece => !piece.isEmpty).map decodePair

def encodePair (pair : String × String) : List Char :=
  encode pair.1.toList ++ '=' :: encode pair.2.toList

/-- The encoded text of pairs. -/
def serialize (pairs : List (String × String)) : List Char :=
  ['&'].intercalate (pairs.map encodePair)

end EquityScreen.Form
