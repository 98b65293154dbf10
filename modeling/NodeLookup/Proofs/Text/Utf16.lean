import NodeLookup.Proofs.Text.Utf8

/-!
# UTF-16 and byte order marks

`decodeUtf16_encodeUtf16` reads a text back from its bytes in UTF-16, in either order of the bytes. A
byte order mark decides alone how the bytes after it are read: `decodeMarked_utf8` and
`decodeMarked_utf16` for the encodings that have one, `decodeMarked_unmarked` for bytes that start with
none. The bytes of a text start with the mark of UTF-8 exactly if the text starts with the character
of that mark.
-/

namespace NodeLookup.Text

variable {order : ByteOrder} {read : List UInt8 → List Char}

/-- The two bytes of a number. -/
def ByteOrder.bytes : ByteOrder → Nat → UInt8 × UInt8
  | big, unit => (UInt8.ofNat (unit / 0x100), UInt8.ofNat unit)
  | little, unit => (UInt8.ofNat unit, UInt8.ofNat (unit / 0x100))

/-- The bytes of a character in UTF-16: those of its number, or those of the two halves of a pair. -/
def encodeUtf16Char (order : ByteOrder) (char : Char) : List UInt8 :=
  if char.toNat < 0x10000 then
    [(order.bytes char.toNat).1, (order.bytes char.toNat).2]
  else
    let leading := order.bytes ((char.toNat - 0x10000) / 0x400 + 0xD800)
    let trailing := order.bytes ((char.toNat - 0x10000) % 0x400 + 0xDC00)
    [leading.1, leading.2, trailing.1, trailing.2]

/-- The bytes of a text in UTF-16. -/
def encodeUtf16 (order : ByteOrder) (text : List Char) : List UInt8 :=
  text.flatMap (encodeUtf16Char order)

/-- The byte order mark of UTF-16, which shows the order of the bytes. -/
def ByteOrder.mark (order : ByteOrder) : List UInt8 := encodeUtf16 order ['\ufeff']

/-- The byte order mark of UTF-8. -/
def utf8Mark : List UInt8 := encode ['\ufeff']

/-- Two bytes make the number whose bytes they are. -/
theorem ByteOrder.unit_bytes (order : ByteOrder) {unit : Nat} (small : unit < 0x10000) :
    order.unit (order.bytes unit).1 (order.bytes unit).2 = unit := by
  have high : unit / 0x100 % 0x100 = unit / 0x100 := Nat.mod_eq_of_lt (by omega)
  have whole : unit / 0x100 * 0x100 + unit % 0x100 = unit := by omega
  cases order with
  | big => simpa [ByteOrder.unit, ByteOrder.bytes, UInt8.toNat_ofNat', high] using whole
  | little => simpa [ByteOrder.unit, ByteOrder.bytes, UInt8.toNat_ofNat', high] using whole

/-- A number that is no half of a pair stands for a character of its own. -/
theorem decodeUtf16_single {first second : UInt8}
    (notLeading : isLeading (order.unit first second) = false)
    (notTrailing : isTrailing (order.unit first second) = false) (bytes : List UInt8) :
    decodeUtf16 order (first :: second :: bytes) =
      Char.ofNat (order.unit first second) :: decodeUtf16 order bytes := by
  conv_lhs => unfold decodeUtf16
  simp [notLeading, notTrailing]

/-- Two halves of a pair stand for the character of the pair. -/
theorem decodeUtf16_pair {first second third fourth : UInt8}
    (leading : isLeading (order.unit first second) = true)
    (notTrailing : isTrailing (order.unit first second) = false)
    (trailing : isTrailing (order.unit third fourth) = true) (bytes : List UInt8) :
    decodeUtf16 order (first :: second :: third :: fourth :: bytes) =
      pairChar (order.unit first second) (order.unit third fourth) :: decodeUtf16 order bytes := by
  conv_lhs => unfold decodeUtf16
  simp [leading, notTrailing, trailing]

/-- The bytes of a character stand for it, whatever follows them. -/
theorem decodeUtf16_encodeUtf16Char (order : ByteOrder) (char : Char) (bytes : List UInt8) :
    decodeUtf16 order (encodeUtf16Char order char ++ bytes) = char :: decodeUtf16 order bytes := by
  have scalar : char.toNat < 0xD800 ∨ 0xDFFF < char.toNat ∧ char.toNat < 0x110000 := char.valid
  have same : Char.ofNat char.toNat = char := Char.ofNat_toNat char
  rw [encodeUtf16Char]
  generalize char.toNat = value at scalar same ⊢
  split
  · next small =>
    have unit := order.unit_bytes small
    rw [List.cons_append, List.singleton_append, decodeUtf16_single, unit, same]
    · grind [isLeading]
    · grind [isTrailing]
  · next large =>
    have first : order.unit _ _ = (value - 0x10000) / 0x400 + 0xD800 := order.unit_bytes (by omega)
    have second : order.unit _ _ = (value - 0x10000) % 0x400 + 0xDC00 := order.unit_bytes (by omega)
    have whole : (value - 0x10000) / 0x400 * 0x400 + (value - 0x10000) % 0x400 + 0x10000 = value := by
      omega
    simp only [List.cons_append, List.nil_append]
    rw [decodeUtf16_pair, first, second, pairChar, Nat.add_sub_cancel, Nat.add_sub_cancel, whole, same]
    · grind [isLeading]
    · grind [isTrailing]
    · grind [isTrailing]

/-- A text is read back from its bytes in UTF-16. -/
theorem decodeUtf16_encodeUtf16 (order : ByteOrder) (text : List Char) :
    decodeUtf16 order (encodeUtf16 order text) = text := by
  induction text with
  | nil => rfl
  | cons char text ih =>
    have cons : encodeUtf16 order (char :: text) =
        encodeUtf16Char order char ++ encodeUtf16 order text := List.flatMap_cons
    rw [cons, decodeUtf16_encodeUtf16Char, ih]

/-! ## Byte order marks -/

/-- Bytes that start with the byte order mark of no encoding. -/
structure Unmarked (bytes : List UInt8) : Prop where
  utf8 : ¬utf8Mark <+: bytes
  utf16 : ∀ order : ByteOrder, ¬order.mark <+: bytes

/-- Behind the mark of UTF-8 bytes are read as such. -/
theorem decodeMarked_utf8 (bytes : List UInt8) :
    decodeMarked read (utf8Mark ++ bytes) = decodeLenient bytes := rfl

/-- Behind the mark of UTF-16 bytes are read as such. -/
theorem decodeMarked_utf16 (order : ByteOrder) (bytes : List UInt8) :
    decodeMarked read (order.mark ++ bytes) = decodeUtf16 order bytes := by
  cases order with
  | big => rfl
  | little => rfl

/-- Without a mark bytes are read in the way given. -/
theorem decodeMarked_unmarked {bytes : List UInt8} (unmarked : Unmarked bytes) :
    decodeMarked read bytes = read bytes := by
  rw [decodeMarked]
  · rintro rest rfl
    exact unmarked.utf8 ⟨rest, rfl⟩
  · rintro rest rfl
    exact unmarked.utf16 .little ⟨rest, rfl⟩
  · rintro rest rfl
    exact unmarked.utf16 .big ⟨rest, rfl⟩

/-- What starts with the mark of UTF-16 is no text in UTF-8. -/
theorem not_mark_prefix_encode (order : ByteOrder) (text : List Char) :
    ¬order.mark <+: encode text := by
  rintro ⟨rest, starts⟩
  have read := units_encode text
  have malformed : (units none (order.mark ++ rest)).head? = some none := by
    cases order with
    | big => rfl
    | little => rfl
  rw [← starts] at read
  rw [read] at malformed
  cases text with
  | nil => cases malformed
  | cons char text => cases malformed

/-- The bytes of a text are marked exactly if it starts with the character of the mark. -/
theorem unmarked_encode_iff {text : List Char} :
    Unmarked (encode text) ↔ text.head? ≠ some '\ufeff' := by
  constructor
  · intro unmarked starts
    obtain ⟨rest, rfl⟩ : ∃ rest, text = '\ufeff' :: rest := by
      cases text with
      | nil => cases starts
      | cons char rest => exact ⟨rest, by rw [Option.some.inj starts]⟩
    exact unmarked.utf8 ⟨encode rest, by rw [encode_cons]; rfl⟩
  · intro other
    refine ⟨?_, fun order => not_mark_prefix_encode order text⟩
    rintro ⟨rest, starts⟩
    have read := units_encode text
    rw [← starts, utf8Mark, encode_cons, List.append_assoc, units_encodeChar] at read
    cases text with
    | nil => cases read
    | cons char text =>
      have first : '\ufeff' = char := Option.some.inj (List.cons.inj read).1
      exact other (by rw [List.head?_cons, first])

/-- A text that does not start with the character of the mark is read back from its bytes. -/
theorem decodeMarked_encode {text : List Char} (unmarked : text.head? ≠ some '\ufeff') :
    decodeMarked decodeLenient (encode text) = text := by
  rw [decodeMarked_unmarked (unmarked_encode_iff.mpr unmarked), decodeLenient_encode]

end NodeLookup.Text
