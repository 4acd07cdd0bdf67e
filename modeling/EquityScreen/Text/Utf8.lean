/-! UTF-8. Encoding is the core library's, character by character. Decoding reads one byte at a time
and never fails: a byte that cannot continue the sequence before it ends that sequence as an error
and is read again as the start of the next one. -/
namespace EquityScreen.Text

/-- The UTF-8 bytes of a text. -/
def utf8Bytes (cs : List Char) : List UInt8 := cs.flatMap String.utf8EncodeChar

/-- A sequence of bytes that is not complete yet: the bits so far, the number of bytes still
missing, and the range that the next byte must lie in. -/
structure PartialChar where
  bits : Nat
  missing : Nat
  low : Nat
  high : Nat

/-- What one byte leads to: a character (or none, where the byte is not allowed), or a sequence
that needs further bytes. -/
inductive ByteStep where
  | char (c : Option Char)
  | more (p : PartialChar)

/-- Read the first byte of a sequence. Ranges for the second byte keep out overlong forms,
surrogates and code points past the last one. -/
def leadByte (b : Nat) : ByteStep :=
  if b < 0x80 then .char (some (Char.ofNat b))
  else if b < 0xC2 then .char none
  else if b < 0xE0 then .more ⟨b - 0xC0, 1, 0x80, 0xBF⟩
  else if b < 0xF0 then
    .more ⟨b - 0xE0, 2, if b = 0xE0 then 0xA0 else 0x80, if b = 0xED then 0x9F else 0xBF⟩
  else if b < 0xF5 then
    .more ⟨b - 0xF0, 3, if b = 0xF0 then 0x90 else 0x80, if b = 0xF4 then 0x8F else 0xBF⟩
  else .char none

/-- Read a byte that continues a sequence. -/
def PartialChar.continueWith (p : PartialChar) (b : Nat) : ByteStep :=
  let bits := p.bits * 64 + (b - 0x80)
  if p.missing ≤ 1 then .char (some (Char.ofNat bits)) else .more ⟨bits, p.missing - 1, 0x80, 0xBF⟩

/-- The characters that bytes stand for, `none` marking each sequence that is not UTF-8. -/
def utf8CharsFrom : Option PartialChar → List UInt8 → List (Option Char)
  | none, [] => []
  | some _, [] => [none]
  | none, b :: rest =>
    match leadByte b.toNat with
    | .char c => c :: utf8CharsFrom none rest
    | .more p => utf8CharsFrom (some p) rest
  | some p, b :: rest =>
    if p.low ≤ b.toNat ∧ b.toNat ≤ p.high then
      match p.continueWith b.toNat with
      | .char c => c :: utf8CharsFrom none rest
      | .more q => utf8CharsFrom (some q) rest
    else
      match leadByte b.toNat with
      | .char c => none :: c :: utf8CharsFrom none rest
      | .more q => none :: utf8CharsFrom (some q) rest

/-- The character put in place of bytes that are not UTF-8. -/
def replacementChar : Char := Char.ofNat 0xFFFD

/-- Decode bytes, each faulty sequence becoming one replacement character. -/
def decodeUtf8Lossy (bytes : List UInt8) : List Char :=
  (utf8CharsFrom none bytes).map fun c => c.getD replacementChar

/-- Decode bytes that are UTF-8 throughout. -/
def decodeUtf8? (bytes : List UInt8) : Option (List Char) :=
  (utf8CharsFrom none bytes).mapM id

end EquityScreen.Text
