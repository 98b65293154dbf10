import NodeLookup.Text.Bytes
import Mathlib.Tactic.Common

/-!
# The bytes of a text read back

`units_encodeChar` follows the reader through the bytes of one character, whatever comes after them.
`decodeLenient_encode` extends this to texts, in whose bytes nothing is replaced, so no two texts have
the same bytes.
-/

namespace NodeLookup.Text

/-- A text of ASCII alone. -/
def Ascii (text : List Char) : Prop := ∀ char ∈ text, char.toNat ≤ 0x7F

instance (text : List Char) : Decidable (Ascii text) :=
  List.decidableBAll (fun char : Char => char.toNat ≤ 0x7F) text

/-- A byte below `0x80` is a character of its own. -/
theorem leadByte_single {value : Nat} (small : value < 0x80) :
    leadByte (UInt8.ofNat value) = .single (Char.ofNat value) := by
  have byte : (UInt8.ofNat value).toNat = value := by
    rw [UInt8.toNat_ofNat', Nat.mod_eq_of_lt (by omega)]
  simp [leadByte, byte, small]

/-- A byte that starts a character of two bytes. -/
theorem leadByte_two {bits : Nat} (low : 2 ≤ bits) (high : bits < 0x20) :
    leadByte (UInt8.ofNat (bits + 0xC0)) = .starts 1 bits 0x80 0xBF := by
  have byte : (UInt8.ofNat (bits + 0xC0)).toNat = bits + 0xC0 := by
    rw [UInt8.toNat_ofNat', Nat.mod_eq_of_lt (by omega)]
  simp only [leadByte, byte]
  rw [if_neg (by omega), if_neg (by omega), if_pos (by omega), Nat.add_sub_cancel]

/-- A byte that starts a character of three bytes, with the range that it leaves to the second. -/
theorem leadByte_three {bits : Nat} (high : bits < 0x10) :
    leadByte (UInt8.ofNat (bits + 0xE0)) =
      .starts 2 bits (if bits = 0 then 0xA0 else 0x80) (if bits = 0xD then 0x9F else 0xBF) := by
  have byte : (UInt8.ofNat (bits + 0xE0)).toNat = bits + 0xE0 := by
    rw [UInt8.toNat_ofNat', Nat.mod_eq_of_lt (by omega)]
  simp only [leadByte, byte]
  rw [if_neg (by omega), if_neg (by omega), if_neg (by omega), if_pos (by omega),
    Nat.add_sub_cancel]
  congr 1 <;> simp

/-- A byte that starts a character of four bytes, with the range that it leaves to the second. -/
theorem leadByte_four {bits : Nat} (high : bits < 5) :
    leadByte (UInt8.ofNat (bits + 0xF0)) =
      .starts 3 bits (if bits = 0 then 0x90 else 0x80) (if bits = 4 then 0x8F else 0xBF) := by
  have byte : (UInt8.ofNat (bits + 0xF0)).toNat = bits + 0xF0 := by
    rw [UInt8.toNat_ofNat', Nat.mod_eq_of_lt (by omega)]
  simp only [leadByte, byte]
  rw [if_neg (by omega), if_neg (by omega), if_neg (by omega), if_neg (by omega),
    if_pos (by omega), Nat.add_sub_cancel]
  congr 1 <;> simp

/-- A byte that is a character of its own is read at once. -/
theorem units_single {byte : UInt8} {char : Char} (single : leadByte byte = .single char)
    (bytes : List UInt8) : units none (byte :: bytes) = some char :: units none bytes := by
  simp [units, single]

/-- A byte that starts a character leaves the rest of it to the bytes that follow. -/
theorem units_start {byte : UInt8} {needed code low high : Nat}
    (starts : leadByte byte = .starts needed code low high) (bytes : List UInt8) :
    units none (byte :: bytes) = units (some ⟨needed, code, low, high⟩) bytes := by
  simp [units, starts]

/-- A byte within a character adds six bits, and the next one may be any that continues. -/
theorem units_next {needed code low high bits : Nat} (small : bits < 0x40)
    (above : low ≤ bits + 0x80) (below : bits + 0x80 ≤ high) (bytes : List UInt8) :
    units (some ⟨needed + 2, code, low, high⟩) (UInt8.ofNat (bits + 0x80) :: bytes) =
      units (some ⟨needed + 1, code * 0x40 + bits, 0x80, 0xBF⟩) bytes := by
  have byte : (UInt8.ofNat (bits + 0x80)).toNat = bits + 0x80 := by
    rw [UInt8.toNat_ofNat', Nat.mod_eq_of_lt (by omega)]
  rw [units]
  simp only [byte]
  rw [if_pos ⟨above, below⟩, if_neg (by omega), Nat.add_sub_cancel]
  rfl

/-- The last byte of a character completes it. -/
theorem units_last {code low high bits : Nat} (small : bits < 0x40) (above : low ≤ bits + 0x80)
    (below : bits + 0x80 ≤ high) (bytes : List UInt8) :
    units (some ⟨1, code, low, high⟩) (UInt8.ofNat (bits + 0x80) :: bytes) =
      some (Char.ofNat (code * 0x40 + bits)) :: units none bytes := by
  have byte : (UInt8.ofNat (bits + 0x80)).toNat = bits + 0x80 := by
    rw [UInt8.toNat_ofNat', Nat.mod_eq_of_lt (by omega)]
  rw [units]
  simp only [byte]
  rw [if_pos ⟨above, below⟩, if_pos (Nat.le_refl 1), Nat.add_sub_cancel]

/-- The bytes of a character stand for it, whatever follows them. -/
theorem units_encodeChar (char : Char) (bytes : List UInt8) :
    units none (String.utf8EncodeChar char ++ bytes) = some char :: units none bytes := by
  have scalar : char.toNat < 0xD800 ∨ 0xDFFF < char.toNat ∧ char.toNat < 0x110000 := char.valid
  have same : Char.ofNat char.toNat = char := Char.ofNat_toNat char
  have number : char.val.toNat = char.toNat := rfl
  simp only [String.utf8EncodeChar, number]
  generalize char.toNat = value at scalar same ⊢
  -- One case for each number of bytes; the bits of the bytes add up to the number of the character.
  split
  · next one =>
    rw [List.singleton_append, units_single (leadByte_single (by omega)), same]
  split
  · next two =>
    have bits : value / 64 % 0x20 * 0x40 + value % 0x40 = value := by omega
    simp only [List.cons_append, List.nil_append]
    rw [units_start (leadByte_two (by omega) (by omega)),
      units_last (by omega) (by omega) (by omega), bits, same]
  split
  · next three =>
    have bits :
        (value / 4096 % 0x10 * 0x40 + value / 64 % 0x40) * 0x40 + value % 0x40 = value := by omega
    simp only [List.cons_append, List.nil_append]
    rw [units_start (leadByte_three (by omega)),
      units_next (by omega) (by split <;> omega) (by split <;> omega),
      units_last (by omega) (by omega) (by omega), bits, same]
  · next four =>
    have bits :
        ((value / 262144 % 0x08 * 0x40 + value / 4096 % 0x40) * 0x40 + value / 64 % 0x40) * 0x40 +
          value % 0x40 = value := by omega
    simp only [List.cons_append, List.nil_append]
    rw [units_start (leadByte_four (by omega)),
      units_next (by omega) (by split <;> omega) (by split <;> omega),
      units_next (by omega) (by omega) (by omega), units_last (by omega) (by omega) (by omega),
      bits, same]

@[simp] theorem encode_nil : encode [] = [] := rfl

@[simp] theorem encode_cons (char : Char) (text : List Char) :
    encode (char :: text) = String.utf8EncodeChar char ++ encode text := by
  simp [encode]

@[simp] theorem encode_append (first second : List Char) :
    encode (first ++ second) = encode first ++ encode second := by
  simp [encode]

/-- The bytes of a text stand for its characters. -/
theorem units_encode (text : List Char) : units none (encode text) = text.map some := by
  induction text with
  | nil => rfl
  | cons char text ih => rw [encode_cons, units_encodeChar, ih, List.map_cons]

/-- Nothing is replaced in the bytes of a text. -/
theorem decodeLenient_encode (text : List Char) : decodeLenient (encode text) = text := by
  simp [decodeLenient, units_encode, Function.comp_def]

/-- No part of the bytes of a text is malformed. -/
theorem decode?_encode (text : List Char) : decode? (encode text) = some text := by
  rw [decode?, units_encode]
  induction text with
  | nil => rfl
  | cons char text ih => simp [ih]

/-- Texts with the same bytes are the same. -/
theorem encode_injective : Function.Injective encode := by
  intro first second same
  rw [← decodeLenient_encode first, same, decodeLenient_encode]

end NodeLookup.Text
