import NodeLookup.Proofs.Text.Utf8
import NodeLookup.Url.Segments

/-!
# Percent-encoding undone

`percentDecode_percentEncode` reads an encoded text back to the bytes of the text, for every set that
`Reversible` admits: the percent sign has to be encoded itself, and so has everything beyond ASCII.
The set of appended segments is such a set, so a segment can be a dot segment only if it was written
as one, and it never holds a slash.
-/

namespace NodeLookup.Url

open Text (encode)

/-- What a set of characters has to hold for its encoding to be undone. -/
structure Reversible (set : EncodeSet) : Prop where
  percent : set '%' = true
  beyondAscii : ∀ char, 0x7E < char.toNat → set char = true

/-- The encoding of appended segments can be undone. -/
theorem reversible_segmentSet (special : Bool) : Reversible (segmentSet special) where
  percent := by cases special <;> decide
  beyondAscii := by
    intro char beyond
    simp [segmentSet, pathSet, fragmentSet, controlSet, beyond]

/-! ## Bytes -/

/-- A character of ASCII is one byte. -/
theorem encodeChar_ascii {char : Char} (small : char.toNat ≤ 0x7F) :
    String.utf8EncodeChar char = [UInt8.ofNat char.toNat] := by
  have number : char.val.toNat = char.toNat := rfl
  simp only [String.utf8EncodeChar, number]
  rw [if_pos small]

/-- No other character of ASCII has the byte of a percent sign. -/
theorem ofNat_toNat_ne_percent {char : Char} (small : char.toNat ≤ 0x7F) (different : char ≠ '%') :
    UInt8.ofNat char.toNat ≠ 0x25 := by
  intro same
  have number : char.toNat = 0x25 := by
    have value := congrArg UInt8.toNat same
    rw [UInt8.toNat_ofNat', Nat.mod_eq_of_lt (by omega)] at value
    exact value
  exact different (by rw [← Char.ofNat_toNat char, number])

/-- A byte that is no percent sign stands for itself. -/
theorem percentDecode_plain {byte : UInt8} (plain : byte ≠ 0x25) (rest : List UInt8) :
    percentDecode (byte :: rest) = byte :: percentDecode rest := by
  match rest with
  | [] => rfl
  | [_] => rfl
  | first :: second :: rest => rw [percentDecode, if_neg plain]

/-- A percent sign and two hexadecimal digits stand for a byte. -/
theorem percentDecode_escaped {first second : UInt8} {high low : Nat}
    (highDigit : hexByte? first = some high) (lowDigit : hexByte? second = some low)
    (rest : List UInt8) :
    percentDecode (0x25 :: first :: second :: rest) =
      UInt8.ofNat (high * 16 + low) :: percentDecode rest := by
  simp [percentDecode, highDigit, lowDigit]

/-- A hexadecimal digit is one byte, whose value is the digit's. -/
theorem hexByte?_upperHexDigit {value : Nat} (small : value < 16) :
    ∃ byte, String.utf8EncodeChar (upperHexDigit value) = [byte] ∧ hexByte? byte = some value := by
  have digits : ∀ value, value < 16 →
      String.utf8EncodeChar (upperHexDigit value) =
          [UInt8.ofNat (upperHexDigit value).toNat] ∧
        hexByte? (UInt8.ofNat (upperHexDigit value).toNat) = some value := by
    decide
  exact ⟨_, digits value small⟩

/-- The encoded form of a byte reads back as the byte. -/
theorem percentDecode_percentByte (byte : UInt8) (rest : List UInt8) :
    percentDecode (encode (percentByte byte) ++ rest) = byte :: percentDecode rest := by
  have bounded : byte.toNat < 256 := byte.toNat_lt
  obtain ⟨first, firstByte, firstValue⟩ :=
    hexByte?_upperHexDigit (by omega : byte.toNat / 16 < 16)
  obtain ⟨second, secondByte, secondValue⟩ :=
    hexByte?_upperHexDigit (by omega : byte.toNat % 16 < 16)
  have digits : byte.toNat / 16 * 16 + byte.toNat % 16 = byte.toNat := by omega
  have percent : String.utf8EncodeChar '%' = [0x25] := rfl
  simp only [percentByte, Text.encode_cons, Text.encode_nil, percent, firstByte, secondByte,
    List.cons_append, List.nil_append]
  rw [percentDecode_escaped firstValue secondValue, digits, UInt8.ofNat_toNat]

/-- The encoded form of a run of bytes reads back as the bytes. -/
theorem percentDecode_percentBytes (bytes rest : List UInt8) :
    percentDecode (encode (bytes.flatMap percentByte) ++ rest) = bytes ++ percentDecode rest := by
  induction bytes with
  | nil => rfl
  | cons byte bytes ih =>
    rw [List.flatMap_cons, Text.encode_append, List.append_assoc, percentDecode_percentByte, ih,
      List.cons_append]

/-! ## Texts -/

variable {set : EncodeSet}

/-- The encoded form of a character reads back as its bytes. -/
theorem percentDecode_percentChar (reversible : Reversible set) (char : Char) (rest : List UInt8) :
    percentDecode (encode (percentChar set char) ++ rest) =
      String.utf8EncodeChar char ++ percentDecode rest := by
  by_cases encoded : set char = true
  · rw [percentChar, if_pos encoded, percentDecode_percentBytes]
  · have small : char.toNat ≤ 0x7E :=
      Nat.le_of_not_lt fun beyond => encoded (reversible.beyondAscii char beyond)
    have different : char ≠ '%' := fun same => encoded (same ▸ reversible.percent)
    rw [percentChar, if_neg encoded, Text.encode_cons, Text.encode_nil, List.append_nil,
      encodeChar_ascii (by omega)]
    exact percentDecode_plain (ofNat_toNat_ne_percent (by omega) different) rest

/-- An encoded text reads back as the bytes of the text. -/
theorem percentDecode_percentEncode (reversible : Reversible set) (text : List Char) :
    percentDecode (encode (percentEncode set text)) = encode text := by
  suffices ∀ rest, percentDecode (encode (percentEncode set text) ++ rest) =
      encode text ++ percentDecode rest by
    simpa [percentDecode] using this []
  intro rest
  induction text with
  | nil => rfl
  | cons char text ih =>
    rw [percentEncode, List.flatMap_cons, Text.encode_append, List.append_assoc,
      percentDecode_percentChar reversible, ← percentEncode, ih, Text.encode_cons,
      List.append_assoc]

/-- The bytes of a text of ASCII without a percent sign stand for themselves. -/
theorem percentDecode_encode {text : List Char} (ascii : Text.Ascii text)
    (noPercent : '%' ∉ text) : percentDecode (encode text) = encode text := by
  induction text with
  | nil => rfl
  | cons char text ih =>
    simp only [Text.Ascii, List.mem_cons, not_or, forall_eq_or_imp] at ascii noPercent
    rw [Text.encode_cons, encodeChar_ascii ascii.1, List.singleton_append,
      percentDecode_plain (ofNat_toNat_ne_percent ascii.1 (Ne.symm noPercent.1)),
      ih ascii.2 noPercent.2]

/-- Texts with the same encoded form are the same. -/
theorem percentEncode_injective (reversible : Reversible set) :
    Function.Injective (percentEncode set) := by
  intro first second same
  apply Text.encode_injective
  rw [← percentDecode_percentEncode reversible first, same,
    percentDecode_percentEncode reversible second]

/-- A character of a set can occur in what is encoded by it only as part of an encoded byte. -/
theorem not_mem_percentEncode {char : Char} (encoded : set char = true)
    (foreign : ∀ byte, char ∉ percentByte byte) (text : List Char) :
    char ∉ percentEncode set text := by
  intro member
  obtain ⟨source, _, written⟩ := List.mem_flatMap.mp member
  rw [percentChar] at written
  split at written
  · obtain ⟨byte, _, digit⟩ := List.mem_flatMap.mp written
    exact foreign byte digit
  · next kept =>
    rw [List.mem_singleton] at written
    exact kept (written ▸ encoded)

/-- A byte is encoded with the percent sign and hexadecimal digits alone. -/
theorem not_mem_percentByte {char : Char} (notPercent : char ≠ '%')
    (noDigit : ∀ value < 16, char ≠ upperHexDigit value) (byte : UInt8) :
    char ∉ percentByte byte := by
  have bounded : byte.toNat < 256 := byte.toNat_lt
  have high := noDigit (byte.toNat / 16) (by omega)
  have low := noDigit (byte.toNat % 16) (by omega)
  simp [percentByte, notPercent, high, low]

/-! ## Segments -/

/-- What is read as a segment of one dot is a dot once it is decoded. -/
theorem percentDecode_of_isSingleDot {written : List Char} (dot : isSingleDot written = true) :
    percentDecode (encode written) = encode ['.'] := by
  simp only [isSingleDot, List.contains_iff_mem, List.mem_cons, List.not_mem_nil, or_false,
    ← String.toList_inj, String.toList_ofList] at dot
  rcases dot with rfl | rfl | rfl <;> decide

/-- What is read as a segment of two dots is two dots once it is decoded. -/
theorem percentDecode_of_isDoubleDot {written : List Char} (dots : isDoubleDot written = true) :
    percentDecode (encode written) = encode ['.', '.'] := by
  simp only [isDoubleDot, List.contains_iff_mem, List.mem_cons, List.not_mem_nil, or_false,
    ← String.toList_inj, String.toList_ofList] at dots
  rcases dots with rfl | rfl | rfl | rfl | rfl | rfl | rfl | rfl | rfl <;> decide

variable (special : Bool) {segment : List Char}

/-- Nothing but an empty segment is encoded as one. -/
@[simp] theorem percentEncode_segment_eq_nil_iff :
    percentEncode (segmentSet special) segment = [] ↔ segment = [] :=
  (percentEncode_injective (reversible_segmentSet special)).eq_iff' rfl

/-- Nothing but a dot is encoded as one. -/
@[simp] theorem percentEncode_segment_eq_dot_iff :
    percentEncode (segmentSet special) segment = ['.'] ↔ segment = ['.'] :=
  (percentEncode_injective (reversible_segmentSet special)).eq_iff' (by cases special <;> decide)

/-- Nothing but two dots is encoded as two dots. -/
@[simp] theorem percentEncode_segment_eq_dots_iff :
    percentEncode (segmentSet special) segment = ['.', '.'] ↔ segment = ['.', '.'] :=
  (percentEncode_injective (reversible_segmentSet special)).eq_iff' (by cases special <;> decide)

/-- An encoded segment is read as a segment of one dot only if it was a dot. -/
theorem isSingleDot_percentEncode :
    isSingleDot (percentEncode (segmentSet special) segment) = true ↔ segment = ['.'] := by
  constructor
  · intro dot
    apply Text.encode_injective
    rw [← percentDecode_percentEncode (reversible_segmentSet special) segment,
      percentDecode_of_isSingleDot dot]
  · rintro rfl
    rw [(percentEncode_segment_eq_dot_iff special).mpr rfl]
    decide

/-- An encoded segment is read as a segment of two dots only if it was two dots. -/
theorem isDoubleDot_percentEncode :
    isDoubleDot (percentEncode (segmentSet special) segment) = true ↔ segment = ['.', '.'] := by
  constructor
  · intro dots
    apply Text.encode_injective
    rw [← percentDecode_percentEncode (reversible_segmentSet special) segment,
      percentDecode_of_isDoubleDot dots]
  · rintro rfl
    rw [(percentEncode_segment_eq_dots_iff special).mpr rfl]
    decide

/-- An encoded segment holds no slash. -/
theorem slash_not_mem_percentEncode (text : List Char) :
    '/' ∉ percentEncode (segmentSet special) text :=
  not_mem_percentEncode (by cases special <;> decide)
    (not_mem_percentByte (by decide) (by decide)) text

end NodeLookup.Url
