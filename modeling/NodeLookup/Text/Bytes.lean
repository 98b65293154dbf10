/-!
# Text and bytes

Texts as the bytes that carry them, in UTF-8. Bytes that carry no text are cut into maximal malformed
parts, each as long as some character could still have started with it; a lenient reading puts one
replacement character for each, a strict one refuses them. A byte order mark at the start of bytes
tells the encoding they are in, which may then be UTF-16 as well.
-/

namespace NodeLookup.Text

/-- The bytes of a text. -/
def encode (text : List Char) : List UInt8 := text.flatMap String.utf8EncodeChar

/-- What one byte says where a character may start. -/
inductive LeadByte where
  | single (char : Char)
  /-- It starts a character with so many bytes to come, carries the first bits of its number, and
  narrows the range of the next byte. -/
  | starts (needed code low high : Nat)
  | malformed
deriving Repr, Inhabited

/-- Classifies a byte where a character may start. The range of the second byte excludes longer
spellings than needed, surrogates and numbers beyond the last character. -/
def leadByte (byte : UInt8) : LeadByte :=
  let value := byte.toNat
  if value < 0x80 then .single (Char.ofNat value)
  else if value < 0xC2 then .malformed
  else if value < 0xE0 then .starts 1 (value - 0xC0) 0x80 0xBF
  else if value < 0xF0 then
    .starts 2 (value - 0xE0) (if value = 0xE0 then 0xA0 else 0x80) (if value = 0xED then 0x9F else 0xBF)
  else if value < 0xF5 then
    .starts 3 (value - 0xF0) (if value = 0xF0 then 0x90 else 0x80) (if value = 0xF4 then 0x8F else 0xBF)
  else .malformed

/-- The bytes that a character still needs. -/
structure Pending where
  needed : Nat
  code : Nat
  low : Nat
  high : Nat
deriving Repr, Inhabited

/-- The characters that bytes carry, with nothing in place of each malformed part. -/
def units : Option Pending → List UInt8 → List (Option Char)
  | none, [] => []
  | some _, [] => [none]
  | none, byte :: bytes =>
    match leadByte byte with
    | .single char => some char :: units none bytes
    | .starts needed code low high => units (some ⟨needed, code, low, high⟩) bytes
    | .malformed => none :: units none bytes
  | some pending, byte :: bytes =>
    let value := byte.toNat
    if pending.low ≤ value ∧ value ≤ pending.high then
      let code := pending.code * 0x40 + (value - 0x80)
      if pending.needed ≤ 1 then some (Char.ofNat code) :: units none bytes
      else units (some ⟨pending.needed - 1, code, 0x80, 0xBF⟩) bytes
    else
      match leadByte byte with
      | .single char => none :: some char :: units none bytes
      | .starts needed code low high => none :: units (some ⟨needed, code, low, high⟩) bytes
      | .malformed => none :: none :: units none bytes

/-- The character that stands for what cannot be read. -/
def replacement : Char := '\ufffd'

/-- The text that bytes carry, malformed parts replaced. -/
def decodeLenient (bytes : List UInt8) : List Char := (units none bytes).map (·.getD replacement)

/-- The text that bytes carry, or nothing if a part is malformed. -/
def decode? (bytes : List UInt8) : Option (List Char) := (units none bytes).mapM id

/-! ## UTF-16 -/

/-- Whether a number of sixteen bits is the first half of a surrogate pair. -/
def isLeading (unit : Nat) : Bool := 0xD800 ≤ unit && unit ≤ 0xDBFF

/-- Whether a number of sixteen bits is the second half of a surrogate pair. -/
def isTrailing (unit : Nat) : Bool := 0xDC00 ≤ unit && unit ≤ 0xDFFF

/-- The character of a surrogate pair. -/
def pairChar (leading trailing : Nat) : Char :=
  Char.ofNat ((leading - 0xD800) * 0x400 + (trailing - 0xDC00) + 0x10000)

/-- Which of the two bytes of a number comes first. -/
inductive ByteOrder where
  | big
  | little
deriving DecidableEq, Repr, Inhabited

/-- The number that two bytes make. -/
def ByteOrder.unit : ByteOrder → UInt8 → UInt8 → Nat
  | big, first, second => first.toNat * 0x100 + second.toNat
  | little, first, second => second.toNat * 0x100 + first.toNat

/-- The text that bytes carry in UTF-16. What is no half of a pair stands for itself. A half without
the other one is replaced, and so is what is left of a number or a pair at the end. -/
def decodeUtf16 (order : ByteOrder) : List UInt8 → List Char
  | [] => []
  | [_] => [replacement]
  | first :: second :: rest =>
    let unit := order.unit first second
    if isTrailing unit then replacement :: decodeUtf16 order rest
    else if isLeading unit then
      match rest with
      | third :: fourth :: after =>
        if isTrailing (order.unit third fourth) then
          pairChar unit (order.unit third fourth) :: decodeUtf16 order after
        else replacement :: decodeUtf16 order (third :: fourth :: after)
      | _ => [replacement]
    else Char.ofNat unit :: decodeUtf16 order rest

/-! ## Byte order marks -/

/-- The text that bytes carry. A byte order mark at their start says how they are to be read and is no
part of the text; without one they are read in the way given. -/
def decodeMarked (read : List UInt8 → List Char) : List UInt8 → List Char
  | 0xEF :: 0xBB :: 0xBF :: bytes => decodeLenient bytes
  | 0xFF :: 0xFE :: bytes => decodeUtf16 .little bytes
  | 0xFE :: 0xFF :: bytes => decodeUtf16 .big bytes
  | bytes => read bytes

end NodeLookup.Text
