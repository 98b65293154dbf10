import NodeLookup.Json.Number
import NodeLookup.Text.Quoted

/-!
# Faults in a document

Why a document was refused, and where. A reader works on the characters that are still unread, so a
fault remembers those and how many of their bytes had been looked at; the line and the column follow
from the whole text.
-/

namespace NodeLookup.Json

/-- A value as a message names it when another one was wanted. -/
inductive Found where
  | null
  | boolean (value : Bool)
  | number (value : Number)
  | string (value : String)
  | sequence
  | map
deriving DecidableEq, Repr, Inhabited

/-- The words of a message for a value that was not wanted. -/
def Found.describe : Found → String
  | null => "null"
  | boolean true => "boolean `true`"
  | boolean false => "boolean `false`"
  | number (.floating below magnitude) =>
    "floating point `" ++ String.ofList (Number.render (.floating below magnitude)) ++ "`"
  | number value => "integer `" ++ String.ofList value.render ++ "`"
  | string value => "string " ++ Text.quoted value
  | sequence => "sequence"
  | map => "map"

/-- Why a document was refused. -/
inductive Cause where
  | endInList
  | endInObject
  | endInString
  | endInValue
  | expectedColon
  | expectedListCommaOrEnd
  | expectedObjectCommaOrEnd
  | expectedIdent
  | expectedValue
  | invalidEscape
  | invalidNumber
  /-- A numeral beyond the greatest double-precision number. -/
  | numberOutOfRange
  | controlCharacter
  | keyMustBeString
  /-- A surrogate escape that is not the first of a pair. -/
  | loneSurrogate
  /-- The first surrogate escape of a pair, with no escape after it. -/
  | endOfHexEscape
  | trailingComma
  | trailingCharacters
  | recursionLimit
  | missingField (name : String)
  | duplicateField (name : String)
  /-- A record written as a list that ends before a member that it must have. -/
  | invalidLength (length : Nat) (expected : String)
  | invalidType (found : Found) (expected : String)
  /-- A value of the wanted kind that lies outside the wanted range. -/
  | invalidValue (found : Found) (expected : String)
deriving DecidableEq, Repr, Inhabited

/-- The words of a message for a cause. -/
def Cause.describe : Cause → String
  | endInList => "EOF while parsing a list"
  | endInObject => "EOF while parsing an object"
  | endInString => "EOF while parsing a string"
  | endInValue => "EOF while parsing a value"
  | expectedColon => "expected `:`"
  | expectedListCommaOrEnd => "expected `,` or `]`"
  | expectedObjectCommaOrEnd => "expected `,` or `\x7d`"
  | expectedIdent => "expected ident"
  | expectedValue => "expected value"
  | invalidEscape => "invalid escape"
  | invalidNumber => "invalid number"
  | numberOutOfRange => "number out of range"
  | controlCharacter => "control character (\\u0000-\\u001F) found while parsing a string"
  | keyMustBeString => "key must be a string"
  | loneSurrogate => "lone leading surrogate in hex escape"
  | endOfHexEscape => "unexpected end of hex escape"
  | trailingComma => "trailing comma"
  | trailingCharacters => "trailing characters"
  | recursionLimit => "recursion limit exceeded"
  | missingField name => "missing field `" ++ name ++ "`"
  | duplicateField name => "duplicate field `" ++ name ++ "`"
  | invalidLength length expected =>
    "invalid length " ++ toString length ++ ", expected " ++ expected
  | invalidType found expected => "invalid type: " ++ found.describe ++ ", expected " ++ expected
  | invalidValue found expected => "invalid value: " ++ found.describe ++ ", expected " ++ expected

/-- A fault as a reader meets it. -/
structure Fault where
  cause : Cause
  /-- The characters that had not been consumed. -/
  unread : List Char
  /-- How many bytes of those the reader had looked at. -/
  ahead : Nat
deriving DecidableEq, Repr, Inhabited

/-- A fault in what has been consumed. -/
def Fault.before (cause : Cause) (unread : List Char) : Fault := ⟨cause, unread, 0⟩

/-- A fault in the next byte, or at the end of the text. -/
def Fault.within (cause : Cause) (unread : List Char) : Fault := ⟨cause, unread, 1⟩

/-- How many bytes a text takes. -/
def byteLength : (text : List Char) → Nat
  | [] => 0
  | char :: text => char.utf8Size + byteLength text

/-- The line and the column of the last of the first `count` bytes of a text, from a line and a
column to start with. Only a line feed starts a line, in whose column zero it lies itself. -/
def position (line column : Nat) : (text : List Char) → (count : Nat) → Nat × Nat
  | [], _ => (line, column)
  | char :: rest, count =>
    if count = 0 then (line, column)
    else if char = '\n' then position (line + 1) 0 rest (count - 1)
    else if count ≤ char.utf8Size then (line, column + count)
    else position line (column + char.utf8Size) rest (count - char.utf8Size)

/-- A fault with its place in the text, as it is reported. -/
structure Failure where
  cause : Cause
  line : Nat
  column : Nat
deriving DecidableEq, Repr, Inhabited

/-- Places a fault in the text that was read. -/
def Fault.locate (text : List Char) (fault : Fault) : Failure :=
  let consumed := byteLength text - byteLength fault.unread
  let place := position 1 0 text (consumed + fault.ahead)
  ⟨fault.cause, place.1, place.2⟩

/-- The message of a failure. -/
def Failure.message (failure : Failure) : String :=
  failure.cause.describe ++ " at line " ++ toString failure.line ++ " column " ++
    toString failure.column

end NodeLookup.Json
