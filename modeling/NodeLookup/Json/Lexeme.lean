import NodeLookup.Json.Fault
import NodeLookup.Text.Bytes

/-!
# Words, strings and numerals

The smallest parts of a document. Every function takes the unread characters and hands back what it
read together with the characters after it.
-/

namespace NodeLookup.Json

open Text (digitValue hexValue? isDigit isLeading isTrailing pairChar)

/-- A step of reading: from the unread characters to a result and the characters after it. -/
abbrev Reader (α : Type) := List Char → Except Fault (α × List Char)

/-- Whether a character may stand between the parts of a document. -/
def isBlank (char : Char) : Bool := char == ' ' || char == '\n' || char == '\t' || char == '\r'

/-- The characters from the first that is not blank. -/
def skipBlank (text : List Char) : List Char := text.dropWhile isBlank

/-- Consumes the given characters, the rest of a word. -/
def word : (wanted : List Char) → List Char → Except Fault (List Char)
  | [], text => .ok text
  | _ :: _, [] => .error (.before .endInValue [])
  | char :: wanted, next :: text =>
    if next = char then word wanted text else .error (.within .expectedIdent (next :: text))

/-- The value of four hexadecimal digits. -/
def hexValue4? (first second third fourth : Char) : Option Nat :=
  match hexValue? first, hexValue? second, hexValue? third, hexValue? fourth with
  | some a, some b, some c, some d => some (((a * 16 + b) * 16 + c) * 16 + d)
  | _, _, _, _ => none

/-- Reads the four hexadecimal digits of an escape. Four bytes are taken before they are judged. -/
def hexEscape (text : List Char) : Except Fault (Nat × List Char) :=
  if byteLength (text.take 4) < 4 then .error (.before .endInString [])
  else
    match text with
    | first :: second :: third :: fourth :: rest =>
      match hexValue4? first second third fourth with
      | some value => .ok (value, rest)
      | none => .error ⟨.invalidEscape, text, 4⟩
    | _ => .error ⟨.invalidEscape, text, 4⟩

/-- The character that a letter stands for after a backslash. -/
def letterEscape? : Char → Option Char
  | '"' => some '"'
  | '\\' => some '\\'
  | '/' => some '/'
  | 'b' => some '\x08'
  | 'f' => some '\x0c'
  | 'n' => some '\n'
  | 'r' => some '\r'
  | 't' => some '\t'
  | _ => none

/-- Reads an escape by number, after its `u`. A character beyond sixteen bits takes two escapes, and
neither half may stand alone. -/
def numberEscape : Reader Char := fun text => do
  let (unit, rest) ← hexEscape text
  if isTrailing unit then .error (.before .loneSurrogate rest)
  else if isLeading unit then
    match rest with
    | [] => .error (.before .endInString [])
    | ['\\'] => .error (.before .endInString [])
    | '\\' :: 'u' :: more =>
      let (second, after) ← hexEscape more
      if isTrailing second then .ok (pairChar unit second, after)
      else .error (.before .loneSurrogate after)
    | '\\' :: more => .error (.within .endOfHexEscape more)
    | _ => .error (.within .endOfHexEscape rest)
  else .ok (Char.ofNat unit, rest)

/-- Reads an escape, after its backslash. -/
def escape : Reader Char
  | [] => .error (.before .endInString [])
  | 'u' :: rest => numberEscape rest
  | char :: rest =>
    match letterEscape? char with
    | some value => .ok (value, rest)
    | none => .error (.within .invalidEscape (char :: rest))

/-- Whether a character has to be escaped in a string. -/
def isControl (char : Char) : Bool := char.toNat < 0x20

/-- Reads the characters of a string up to its closing quote, at most `limit` of them. -/
def stringChars : (limit : Nat) → Reader (List Char)
  | 0, text => .error (.before .endInString text)
  | _ + 1, [] => .error (.before .endInString [])
  | _ + 1, '"' :: rest => .ok ([], rest)
  | limit + 1, '\\' :: rest => do
    let (char, rest) ← escape rest
    let (chars, rest) ← stringChars limit rest
    .ok (char :: chars, rest)
  | limit + 1, char :: rest =>
    if isControl char then .error (.within .controlCharacter (char :: rest))
    else do
      let (chars, rest) ← stringChars limit rest
      .ok (char :: chars, rest)

/-- Reads a string, after its opening quote. -/
def string : Reader String := fun text => do
  let (chars, rest) ← stringChars (text.length + 1) text
  .ok (String.ofList chars, rest)

/-- Extends a significand by digits for as long as it fits in sixty-four bits. The second part is
the number of digits that no longer do. -/
def extend (significand : Nat) : (digits : List Char) → Nat × Nat
  | [] => (significand, 0)
  | digit :: digits =>
    let extended := significand * 10 + digitValue digit
    if Number.greatestNatural < extended then (significand, digits.length + 1)
    else extend extended digits

/-- The number that a sign, a significand and a power of ten stand for. -/
def floatingNumber (below : Bool) (significand : Nat) (exponent : Int) : Reader Number := fun text =>
  match Number.scale? significand exponent with
  | some magnitude => .ok (.floating below magnitude, text)
  | none => .error (.before .numberOutOfRange text)

/-- The greatest exponent that is read as a number. -/
def greatestExponent : Nat := 0x7FFFFFFF

/-- Reads the digits of an exponent on top of those read so far. One that is too great to be read is
a fault at once when it makes the number too great, and makes it zero otherwise. -/
def exponentDigits (below : Bool) (significand : Nat) (shift : Int) (raised : Bool) (exponent : Nat) :
    Reader Number
  | digit :: rest =>
    if isDigit digit then
      let extended := exponent * 10 + digitValue digit
      if greatestExponent < extended then
        if significand ≠ 0 ∧ raised then .error (.before .numberOutOfRange rest)
        else .ok (.floating below .zero, rest.dropWhile isDigit)
      else exponentDigits below significand shift raised extended rest
    else floatingNumber below significand (if raised then shift + exponent else shift - exponent)
      (digit :: rest)
  | [] => floatingNumber below significand (if raised then shift + exponent else shift - exponent) []

/-- Reads an exponent, after its letter. -/
def exponentPart (below : Bool) (significand : Nat) (shift : Int) : Reader Number := fun text =>
  let raised := text.head? != some '-'
  let rest := match text with
    | '+' :: rest => rest
    | '-' :: rest => rest
    | rest => rest
  match rest with
  | [] => .error (.before .endInValue [])
  | digit :: more =>
    if isDigit digit then exponentDigits below significand shift raised (digitValue digit) more
    else .error (.within .invalidNumber (digit :: more))

/-- Reads a fraction, after its point. -/
def fractionPart (below : Bool) (significand : Nat) (shift : Int) : Reader Number := fun text =>
  let digits := text.takeWhile isDigit
  let rest := text.dropWhile isDigit
  let (extended, dropped) := extend significand digits
  let shift := shift - (digits.length - dropped : Nat)
  match digits, rest with
  | [], [] => .error (.before .endInValue [])
  | [], rest => .error (.within .invalidNumber rest)
  | _, 'e' :: rest => exponentPart below extended shift rest
  | _, 'E' :: rest => exponentPart below extended shift rest
  | _, rest => floatingNumber below extended shift rest

/-- Reads what may follow the whole part of a numeral, of which `dropped` digits no longer fit. -/
def afterWhole (below : Bool) (significand dropped : Nat) : Reader Number
  | '.' :: rest => fractionPart below significand dropped rest
  | 'e' :: rest => exponentPart below significand dropped rest
  | 'E' :: rest => exponentPart below significand dropped rest
  | rest =>
    if dropped = 0 then .ok (.ofWhole below significand, rest)
    else floatingNumber below significand dropped rest

/-- Reads a numeral, after its sign. -/
def numeral (below : Bool) : Reader Number
  | [] => .error (.before .endInValue [])
  | '0' :: rest =>
    if rest.head?.any isDigit then .error (.within .invalidNumber rest)
    else afterWhole below 0 0 rest
  | char :: rest =>
    if isDigit char then
      let (significand, dropped) := extend 0 (char :: rest.takeWhile isDigit)
      afterWhole below significand dropped (rest.dropWhile isDigit)
    else .error (.within .invalidNumber (char :: rest))

end NodeLookup.Json
