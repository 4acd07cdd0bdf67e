import EquityScreen.Form
import EquityScreen.Proofs.Utf8RoundTrip

/-! Reading an encoded form gives back the pairs it was made of, whatever
characters their names and values hold. Encoded names and values are free of the
two separators, so the text is cut exactly where pairs were joined. -/
namespace EquityScreen.Form

open Text

/-- A statement about bytes is one about the numbers below 256. -/
private theorem forall_byte {P : UInt8 → Prop} (h : ∀ n < 256, P (UInt8.ofNat n)) (b : UInt8) :
    P b := by
  have hb := h b.toNat b.toNat_lt
  rwa [UInt8.ofNat_toNat] at hb

/-- The bytes with a meaning of their own in an address: the separator of pairs,
the one of name and value, the mark in front of the parameters, and the one behind
them. -/
def isReserved (b : UInt8) : Bool := b == 0x26 || b == 0x3D || b == 0x3F || b == 0x23

/-- What an encoded byte looks like to the reader. -/
def encodedByte (b : UInt8) : List UInt8 :=
  if isPlainByte b then [b]
  else if b = 0x20 then [0x2B]
  else [0x25, UInt8.ofNat (hexDigit (b.toNat / 16)).toNat,
    UInt8.ofNat (hexDigit (b.toNat % 16)).toNat]

/-- A digit is one byte, which reads back and is not reserved. -/
private theorem hexDigit_spec : ∀ n < 16,
    utf8Bytes [hexDigit n] = [UInt8.ofNat (hexDigit n).toNat] ∧
      hexValue? (UInt8.ofNat (hexDigit n).toNat) = some n ∧
      isReserved (UInt8.ofNat (hexDigit n).toNat) = false := by
  decide

/-- A plain byte is one character, which stands for itself and is not reserved. -/
private theorem isPlainByte_spec : ∀ b : UInt8, isPlainByte b = true →
    utf8Bytes [Char.ofNat b.toNat] = [b] ∧ b ≠ 0x2B ∧ b ≠ 0x25 ∧ isReserved b = false := by
  apply forall_byte
  decide +kernel

theorem utf8Bytes_encodeByte (b : UInt8) : utf8Bytes (encodeByte b) = encodedByte b := by
  have hb := b.toNat_lt
  unfold encodeByte encodedByte
  split_ifs with hPlain hSpace
  · exact (isPlainByte_spec b hPlain).1
  · rfl
  · have hFirst := (hexDigit_spec (b.toNat / 16) (by omega)).1
    have hSecond := (hexDigit_spec (b.toNat % 16) (by omega)).1
    rw [← List.singleton_append, ← List.singleton_append (x := hexDigit (b.toNat / 16)),
      utf8Bytes_append, utf8Bytes_append, hFirst, hSecond]
    rfl

theorem utf8Bytes_encode (text : List Char) :
    utf8Bytes (encode text) = (utf8Bytes text).flatMap encodedByte := by
  unfold encode
  induction utf8Bytes text with
  | nil => rfl
  | cons b bytes ih =>
      rw [List.flatMap_cons, List.flatMap_cons, utf8Bytes_append, utf8Bytes_encodeByte, ih]

theorem decodeBytes_plus (rest : List UInt8) :
    decodeBytes (0x2B :: rest) = 0x20 :: decodeBytes rest := by
  rw [decodeBytes.eq_def]
  simp only [if_true]

theorem decodeBytes_plain {b : UInt8} (rest : List UInt8) (hPlus : b ≠ 0x2B)
    (hPercent : b ≠ 0x25) : decodeBytes (b :: rest) = b :: decodeBytes rest := by
  rw [decodeBytes.eq_def]
  simp only [if_neg hPlus, if_neg hPercent]

theorem decodeBytes_escape {h l : UInt8} {high low : Nat} (rest : List UInt8)
    (hHigh : hexValue? h = some high) (hLow : hexValue? l = some low) :
    decodeBytes (0x25 :: h :: l :: rest) =
      UInt8.ofNat (16 * high + low) :: decodeBytes rest := by
  have hPlus : (0x25 : UInt8) ≠ 0x2B := by decide
  rw [decodeBytes, if_neg hPlus, if_pos rfl, hHigh, hLow]

theorem decodeBytes_encodedByte (b : UInt8) (rest : List UInt8) :
    decodeBytes (encodedByte b ++ rest) = b :: decodeBytes rest := by
  have hb := b.toNat_lt
  unfold encodedByte
  split_ifs with hPlain hSpace
  · obtain ⟨_, hPlus, hPercent, _⟩ := isPlainByte_spec b hPlain
    exact decodeBytes_plain rest hPlus hPercent
  · rw [hSpace, List.singleton_append, decodeBytes_plus]
  · obtain ⟨_, hHigh, _⟩ := hexDigit_spec (b.toNat / 16) (by omega)
    obtain ⟨_, hLow, _⟩ := hexDigit_spec (b.toNat % 16) (by omega)
    have hValue : 16 * (b.toNat / 16) + b.toNat % 16 = b.toNat := by omega
    rw [List.cons_append, List.cons_append, List.singleton_append,
      decodeBytes_escape rest hHigh hLow, hValue, UInt8.ofNat_toNat]

theorem decode_encode (text : List Char) : decode (utf8Bytes (encode text)) = text := by
  have hBytes (bytes : List UInt8) : decodeBytes (bytes.flatMap encodedByte) = bytes := by
    induction bytes with
    | nil => rfl
    | cons b bytes ih => rw [List.flatMap_cons, decodeBytes_encodedByte, ih]
  rw [decode, utf8Bytes_encode, hBytes, decodeUtf8Lossy_utf8Bytes]

/-- No reserved byte occurs in an encoded name or value. -/
theorem isReserved_of_mem_encode {text : List Char} {b : UInt8}
    (hb : b ∈ utf8Bytes (encode text)) : isReserved b = false := by
  rw [utf8Bytes_encode, List.mem_flatMap] at hb
  obtain ⟨source, _, hb⟩ := hb
  have hSource := source.toNat_lt
  unfold encodedByte at hb
  split_ifs at hb with hPlain hSpace
  · rw [List.mem_singleton.mp hb]
    exact (isPlainByte_spec source hPlain).2.2.2
  · rw [List.mem_singleton.mp hb]
    decide
  · simp only [List.mem_cons, List.not_mem_nil, or_false] at hb
    rcases hb with rfl | rfl | rfl
    · decide
    · exact (hexDigit_spec (source.toNat / 16) (by omega)).2.2
    · exact (hexDigit_spec (source.toNat % 16) (by omega)).2.2

theorem not_mem_encode_of_isReserved {text : List Char} {b : UInt8} (h : isReserved b = true) :
    b ∉ utf8Bytes (encode text) := by
  intro hb
  rw [isReserved_of_mem_encode hb] at h
  exact Bool.false_ne_true h

theorem utf8Bytes_encodePair (pair : String × String) :
    utf8Bytes (encodePair pair) =
      utf8Bytes (encode pair.1.toList) ++ 0x3D :: utf8Bytes (encode pair.2.toList) := by
  rw [encodePair, utf8Bytes_append, utf8Bytes_cons]
  rfl

theorem decodePair_encodePair (pair : String × String) :
    decodePair (utf8Bytes (encodePair pair)) = pair := by
  have hName : ∀ b ∈ utf8Bytes (encode pair.1.toList), (b != 0x3D) = true := by
    intro b hb
    rw [bne_iff_ne]
    rintro rfl
    exact not_mem_encode_of_isReserved (by decide) hb
  rw [decodePair, utf8Bytes_encodePair, List.takeWhile_append_of_pos hName,
    List.dropWhile_append_of_pos hName, List.takeWhile_cons_of_neg (by decide),
    List.dropWhile_cons_of_neg (by decide), List.append_nil, List.drop_one, List.tail_cons,
    decode_encode, decode_encode, String.ofList_toList, String.ofList_toList]

theorem ampersand_not_mem_encodePair (pair : String × String) :
    0x26 ∉ utf8Bytes (encodePair pair) := by
  intro h
  rw [utf8Bytes_encodePair, List.mem_append, List.mem_cons] at h
  rcases h with h | h | h
  · exact not_mem_encode_of_isReserved (by decide) h
  · exact absurd h (by decide)
  · exact not_mem_encode_of_isReserved (by decide) h

/-- The text of a pair holds at least its equals sign, so it is never passed over. -/
theorem encodePair_not_empty (pair : String × String) :
    (utf8Bytes (encodePair pair)).isEmpty = false := by
  rw [utf8Bytes_encodePair, List.isEmpty_eq_false_iff]
  exact List.append_ne_nil_of_right_ne_nil _ (List.cons_ne_nil _ _)

theorem parse_serialize (pairs : List (String × String)) : parse (serialize pairs) = pairs := by
  cases hPairs : pairs with
  | nil => rfl
  | cons first others =>
      rw [← hPairs]
      have hBytes : utf8Bytes (serialize pairs) =
          [0x26].intercalate (pairs.map fun pair => utf8Bytes (encodePair pair)) := by
        rw [serialize, utf8Bytes_intercalate (b := 0x26) rfl, List.map_map]
        rfl
      have hPieces : (utf8Bytes (serialize pairs)).splitOnP (· == 0x26) =
          pairs.map fun pair => utf8Bytes (encodePair pair) := by
        rw [hBytes, ← List.splitOn_eq_splitOnP]
        refine List.splitOn_intercalate _ ?_ (by simp [hPairs])
        rintro _ hPiece
        obtain ⟨pair, _, rfl⟩ := List.mem_map.mp hPiece
        exact ampersand_not_mem_encodePair pair
      rw [parse, hPieces, List.filter_eq_self.mpr, List.map_map]
      · exact (List.map_congr_left fun pair _ => decodePair_encodePair pair).trans (List.map_id _)
      · rintro _ hPiece
        obtain ⟨pair, _, rfl⟩ := List.mem_map.mp hPiece
        simp [encodePair_not_empty pair]

/-- A reserved character occurs in no encoded name or value. -/
theorem char_not_mem_encode {c : Char} {b : UInt8} (hByte : b ∈ utf8Bytes [c])
    (hReserved : isReserved b = true) (text : List Char) : c ∉ encode text := by
  intro h
  rw [utf8Bytes, List.flatMap_singleton] at hByte
  exact not_mem_encode_of_isReserved hReserved (List.mem_flatMap.mpr ⟨c, h, hByte⟩)

/-- The text of some pairs is the text of the first, and then of the others. -/
theorem serialize_cons_cons (first next : String × String) (others : List (String × String)) :
    serialize (first :: next :: others) =
      encodePair first ++ '&' :: serialize (next :: others) := by
  rw [serialize, List.map_cons, List.map_cons, List.intercalate_cons_cons, List.append_assoc,
    ← List.map_cons]
  rfl

/-- An encoded form does not reach behind the parameters of an address. -/
theorem hash_not_mem_serialize (pairs : List (String × String)) : '#' ∉ serialize pairs := by
  have hPair (pair : String × String) : '#' ∉ encodePair pair := by
    have hText := char_not_mem_encode (c := '#') (b := 0x23) (by decide) (by decide)
    rw [encodePair, List.mem_append, List.mem_cons]
    rintro (h | h | h)
    · exact hText _ h
    · exact absurd h (by decide)
    · exact hText _ h
  induction pairs with
  | nil => exact List.not_mem_nil
  | cons first others ih =>
      cases others with
      | nil => rw [serialize, List.map_singleton, List.intercalate_singleton]; exact hPair first
      | cons next others =>
          rw [serialize_cons_cons, List.mem_append, List.mem_cons]
          rintro (h | h | h)
          · exact hPair first h
          · exact absurd h (by decide)
          · exact ih h

/-- An encoded form never begins like an address with a question mark. -/
theorem head?_serialize_ne_question (pairs : List (String × String)) :
    (serialize pairs).head? ≠ some '?' := by
  cases pairs with
  | nil => decide
  | cons first others =>
      have hStart : ∃ rest, serialize (first :: others) =
          encode first.1.toList ++ '=' :: rest := by
        cases others with
        | nil => exact ⟨_, List.intercalate_singleton⟩
        | cons next others =>
            refine ⟨encode first.2.toList ++ '&' :: serialize (next :: others), ?_⟩
            rw [serialize_cons_cons, encodePair, List.append_assoc, List.cons_append]
      obtain ⟨rest, hStart⟩ := hStart
      intro hHead
      rw [hStart, List.head?_append] at hHead
      cases hName : (encode first.1.toList).head? with
      | none => simp [hName] at hHead
      | some c =>
          simp only [hName, Option.some_or, Option.some.injEq] at hHead
          subst hHead
          exact char_not_mem_encode (b := 0x3F) (by decide) (by decide) _ (List.mem_of_head? hName)

end EquityScreen.Form
