import NodeLookup.Text.Bytes

/-!
# Percent-encoding

A URL holds printable ASCII only. The bytes of any other character, and those of the characters that
would end the part of the URL in which they stand, are spelled as `%` and two hexadecimal digits.
-/

namespace NodeLookup.Url

/-- A set of characters to encode; the control characters and everything beyond ASCII belong to every
one of the sets below. -/
abbrev EncodeSet := Char → Bool

/-- Whether a character is a control or beyond ASCII. -/
def controlSet : EncodeSet := fun char => char.toNat < 0x20 || 0x7E < char.toNat

/-- What is encoded in a fragment. -/
def fragmentSet : EncodeSet := fun char =>
  controlSet char || [' ', '"', '<', '>', '\x60'].contains char

/-- What is encoded in the path of a URL that is read. -/
def pathSet : EncodeSet := fun char =>
  fragmentSet char || ['#', '?', '^', '\x7b', '\x7d'].contains char

/-- What is encoded in user names and passwords. -/
def userinfoSet : EncodeSet := fun char =>
  pathSet char || ['/', ':', ';', '=', '@', '[', '\\', ']', '|'].contains char

/-- What is encoded in a segment that is appended to a path: also what separates segments, and the
percent sign, so that the segment reads back as it was. -/
def segmentSet (special : Bool) : EncodeSet := fun char =>
  pathSet char || ['/', '%'].contains char || (special && char == '\\')

/-- What is encoded in a query that is read. -/
def querySet (special : Bool) : EncodeSet := fun char =>
  controlSet char || [' ', '"', '#', '<', '>'].contains char || (special && char == '\x27')

/-- The hexadecimal digit of a value below sixteen, in upper case. -/
def upperHexDigit (value : Nat) : Char :=
  if value < 10 then Char.ofNat (48 + value) else Char.ofNat (55 + value)

/-- The encoded form of a byte. -/
def percentByte (byte : UInt8) : List Char :=
  ['%', upperHexDigit (byte.toNat / 16), upperHexDigit (byte.toNat % 16)]

/-- The encoded form of a character. -/
def percentChar (set : EncodeSet) (char : Char) : List Char :=
  if set char then (String.utf8EncodeChar char).flatMap percentByte else [char]

/-- The encoded form of a text. -/
def percentEncode (set : EncodeSet) (text : List Char) : List Char := text.flatMap (percentChar set)

/-- The value of a byte that is a hexadecimal digit. -/
def hexByte? (byte : UInt8) : Option Nat :=
  let value := byte.toNat
  if 48 ≤ value ∧ value ≤ 57 then some (value - 48)
  else if 65 ≤ value ∧ value ≤ 70 then some (value - 55)
  else if 97 ≤ value ∧ value ≤ 102 then some (value - 87)
  else none

/-- Decodes every `%` that two hexadecimal digits follow, and keeps all other bytes. -/
def percentDecode : List UInt8 → List UInt8
  | [] => []
  | byte :: first :: second :: rest =>
    if byte = 0x25 then
      match hexByte? first, hexByte? second with
      | some high, some low => UInt8.ofNat (high * 16 + low) :: percentDecode rest
      | _, _ => byte :: percentDecode (first :: second :: rest)
    else byte :: percentDecode (first :: second :: rest)
  | byte :: rest => byte :: percentDecode rest

end NodeLookup.Url
