import EquityScreen.Text.Utf8
import Mathlib.Tactic.SplitIfs

/-! Decoding undoes encoding. The decoder reads bytes one at a time and the encoder
writes the core library's one to four bytes for a character, so a character is
followed byte by byte through the ranges that the decoder allows. -/
namespace EquityScreen.Text

theorem utf8CharsFrom_char {b : UInt8} {c : Option Char} (rest : List UInt8)
    (h : leadByte b.toNat = .char c) :
    utf8CharsFrom none (b :: rest) = c :: utf8CharsFrom none rest := by
  simp only [utf8CharsFrom, h]

theorem utf8CharsFrom_lead {b : UInt8} {p : PartialChar} (rest : List UInt8)
    (h : leadByte b.toNat = .more p) :
    utf8CharsFrom none (b :: rest) = utf8CharsFrom (some p) rest := by
  simp only [utf8CharsFrom, h]

/-- The last byte of a sequence completes a character. -/
theorem utf8CharsFrom_last {bits low high : Nat} {b : UInt8} (rest : List UInt8)
    (hLow : low ≤ b.toNat) (hHigh : b.toNat ≤ high) :
    utf8CharsFrom (some ⟨bits, 1, low, high⟩) (b :: rest) =
      some (Char.ofNat (bits * 64 + (b.toNat - 0x80))) :: utf8CharsFrom none rest := by
  rw [utf8CharsFrom, if_pos ⟨hLow, hHigh⟩]
  rfl

/-- A byte before the last one adds its six bits. -/
theorem utf8CharsFrom_continue {bits missing low high : Nat} {b : UInt8} (rest : List UInt8)
    (hLow : low ≤ b.toNat) (hHigh : b.toNat ≤ high) :
    utf8CharsFrom (some ⟨bits, missing + 2, low, high⟩) (b :: rest) =
      utf8CharsFrom (some ⟨bits * 64 + (b.toNat - 0x80), missing + 1, 0x80, 0xBF⟩) rest := by
  have hMore : ¬ missing + 2 ≤ 1 := by omega
  rw [utf8CharsFrom, if_pos ⟨hLow, hHigh⟩, PartialChar.continueWith, if_neg hMore]
  rfl

theorem leadByte_two {b : Nat} (hLow : 0xC2 ≤ b) (hHigh : b < 0xE0) :
    leadByte b = .more ⟨b - 0xC0, 1, 0x80, 0xBF⟩ := by
  rw [leadByte, if_neg (by omega), if_neg (by omega), if_pos hHigh]

theorem leadByte_three {b : Nat} (hLow : 0xE0 ≤ b) (hHigh : b < 0xF0) :
    leadByte b = .more ⟨b - 0xE0, 2, if b = 0xE0 then 0xA0 else 0x80,
      if b = 0xED then 0x9F else 0xBF⟩ := by
  rw [leadByte, if_neg (by omega), if_neg (by omega), if_neg (by omega), if_pos hHigh]

theorem leadByte_four {b : Nat} (hLow : 0xF0 ≤ b) (hHigh : b < 0xF5) :
    leadByte b = .more ⟨b - 0xF0, 3, if b = 0xF0 then 0x90 else 0x80,
      if b = 0xF4 then 0x8F else 0xBF⟩ := by
  rw [leadByte, if_neg (by omega), if_neg (by omega), if_neg (by omega), if_neg (by omega),
    if_pos hHigh]

private theorem toNat_byte {n : Nat} (h : n < 256) : (UInt8.ofNat n).toNat = n := by
  rw [UInt8.toNat_ofNat']
  exact Nat.mod_eq_of_lt h

/-- A character is a code point outside the surrogates. -/
private theorem codePoint_bounds (c : Char) :
    c.toNat < 0xD800 ∨ 0xDFFF < c.toNat ∧ c.toNat < 0x110000 :=
  c.valid

/-- Overlong forms, surrogates and code points past the last one never come
from a character, so the ranges for the second byte always admit it. -/
theorem utf8CharsFrom_encodeChar (c : Char) (rest : List UInt8) :
    utf8CharsFrom none (String.utf8EncodeChar c ++ rest) =
      some c :: utf8CharsFrom none rest := by
  have hValid := codePoint_bounds c
  have hChar (n : Nat) (h : n = c.toNat) : some (Char.ofNat n) = some c := by
    rw [h, Char.ofNat_toNat]
  rw [String.utf8EncodeChar, show c.val.toNat = c.toNat from rfl]
  generalize c.toNat = n at *
  split_ifs with h1 h2 h3
  · have hByte : (UInt8.ofNat n).toNat = n := toNat_byte (by omega)
    have hLead : leadByte (UInt8.ofNat n).toNat = .char (some (Char.ofNat n)) := by
      rw [hByte, leadByte, if_pos (by omega)]
    rw [List.singleton_append, utf8CharsFrom_char rest hLead, hChar n rfl]
  · have hFirst := toNat_byte (n := n / 64 % 0x20 + 0xc0) (by omega)
    have hSecond := toNat_byte (n := n % 0x40 + 0x80) (by omega)
    rw [List.cons_append, List.singleton_append,
      utf8CharsFrom_lead _ (leadByte_two (by omega) (by omega)),
      utf8CharsFrom_last _ (by omega) (by omega), hFirst, hSecond, hChar _ (by omega)]
  · have hFirst := toNat_byte (n := n / 4096 % 0x10 + 0xe0) (by omega)
    have hSecond := toNat_byte (n := n / 64 % 0x40 + 0x80) (by omega)
    have hThird := toNat_byte (n := n % 0x40 + 0x80) (by omega)
    rw [List.cons_append, List.cons_append, List.singleton_append,
      utf8CharsFrom_lead _ (leadByte_three (by omega) (by omega)),
      utf8CharsFrom_continue _ (by split_ifs <;> omega) (by split_ifs <;> omega),
      utf8CharsFrom_last _ (by omega) (by omega), hFirst, hSecond, hThird, hChar _ (by omega)]
  · have hFirst := toNat_byte (n := n / 262144 % 0x08 + 0xf0) (by omega)
    have hSecond := toNat_byte (n := n / 4096 % 0x40 + 0x80) (by omega)
    have hThird := toNat_byte (n := n / 64 % 0x40 + 0x80) (by omega)
    have hFourth := toNat_byte (n := n % 0x40 + 0x80) (by omega)
    rw [List.cons_append, List.cons_append, List.cons_append, List.singleton_append,
      utf8CharsFrom_lead _ (leadByte_four (by omega) (by omega)),
      utf8CharsFrom_continue _ (by split_ifs <;> omega) (by split_ifs <;> omega),
      utf8CharsFrom_continue _ (by omega) (by omega), utf8CharsFrom_last _ (by omega) (by omega),
      hFirst, hSecond, hThird, hFourth, hChar _ (by omega)]

theorem utf8Bytes_append (as bs : List Char) :
    utf8Bytes (as ++ bs) = utf8Bytes as ++ utf8Bytes bs :=
  List.flatMap_append

theorem utf8Bytes_cons (c : Char) (cs : List Char) :
    utf8Bytes (c :: cs) = String.utf8EncodeChar c ++ utf8Bytes cs :=
  List.flatMap_cons

/-- A separator of one ASCII character stays a separator of one byte. -/
theorem utf8Bytes_intercalate {sep : Char} {b : UInt8} (hSep : utf8Bytes [sep] = [b])
    (pieces : List (List Char)) :
    utf8Bytes ([sep].intercalate pieces) = [b].intercalate (pieces.map utf8Bytes) := by
  induction pieces with
  | nil => rfl
  | cons piece pieces ih =>
      cases pieces with
      | nil => simp only [List.map_cons, List.map_nil, List.intercalate_singleton]
      | cons next pieces =>
          rw [List.intercalate_cons_cons, utf8Bytes_append, utf8Bytes_append, ih, hSep]
          simp only [List.map_cons, List.intercalate_cons_cons]

theorem utf8CharsFrom_utf8Bytes (cs : List Char) :
    utf8CharsFrom none (utf8Bytes cs) = cs.map some := by
  induction cs with
  | nil => rfl
  | cons c cs ih =>
      rw [utf8Bytes, List.flatMap_cons, utf8CharsFrom_encodeChar, List.map_cons]
      exact congrArg _ ih

theorem decodeUtf8Lossy_utf8Bytes (cs : List Char) : decodeUtf8Lossy (utf8Bytes cs) = cs := by
  rw [decodeUtf8Lossy, utf8CharsFrom_utf8Bytes, List.map_map]
  exact List.map_id _

theorem decodeUtf8?_utf8Bytes (cs : List Char) : decodeUtf8? (utf8Bytes cs) = some cs := by
  rw [decodeUtf8?, utf8CharsFrom_utf8Bytes, List.mapM_map]
  exact List.mapM_pure.trans (congrArg some (List.map_id _))

end EquityScreen.Text
