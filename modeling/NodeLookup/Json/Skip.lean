import NodeLookup.Json.Lexeme

/-!
# Skipped values

The value of a member that a record does not know is only checked for its form: brackets may nest to
any depth, numbers may have any size, and surrogate escapes need not pair. The brackets that are
open stand on a stack, innermost first.
-/

namespace NodeLookup.Json

open Text (isDigit)

/-- A bracket that may be open. -/
inductive Bracket where
  | list
  | object
deriving DecidableEq, Repr, Inhabited

/-- The fault of a text that ends inside the bracket. -/
def Bracket.endCause : Bracket → Cause
  | list => .endInList
  | object => .endInObject

/-- The fault of an item that neither a comma nor the closing bracket follows. -/
def Bracket.commaCause : Bracket → Cause
  | list => .expectedListCommaOrEnd
  | object => .expectedObjectCommaOrEnd

/-- The character that closes the bracket. -/
def Bracket.closing : Bracket → Char
  | list => ']'
  | object => '\x7d'

/-- Passes over a string, after its opening quote, with at most `limit` characters and escapes. -/
def skipString : (limit : Nat) → List Char → Except Fault (List Char)
  | 0, text => .error (.before .endInString text)
  | _ + 1, [] => .error (.before .endInString [])
  | _ + 1, '"' :: rest => .ok rest
  | _ + 1, ['\\'] => .error (.before .endInString [])
  | limit + 1, '\\' :: 'u' :: rest => do
    let (_, rest) ← hexEscape rest
    skipString limit rest
  | limit + 1, '\\' :: char :: rest =>
    match letterEscape? char with
    | some _ => skipString limit rest
    | none => .error (.within .invalidEscape (char :: rest))
  | limit + 1, char :: rest =>
    if isControl char then .error (.before .controlCharacter (char :: rest))
    else skipString limit rest

/-- Passes over an exponent, after its letter. -/
def skipExponent (text : List Char) : Except Fault (List Char) :=
  let rest := match text with
    | '+' :: rest => rest
    | '-' :: rest => rest
    | rest => rest
  match rest with
  | [] => .error (.before .invalidNumber [])
  | digit :: more =>
    if isDigit digit then .ok (more.dropWhile isDigit)
    else .error (.within .invalidNumber (digit :: more))

/-- Passes over what may follow the whole part of a numeral. -/
def skipAfterWhole : List Char → Except Fault (List Char)
  | '.' :: rest =>
    if rest.head?.any isDigit then
      match rest.dropWhile isDigit with
      | 'e' :: rest => skipExponent rest
      | 'E' :: rest => skipExponent rest
      | rest => .ok rest
    else .error (.within .invalidNumber rest)
  | 'e' :: rest => skipExponent rest
  | 'E' :: rest => skipExponent rest
  | rest => .ok rest

/-- Passes over a numeral, after its sign. -/
def skipNumeral : List Char → Except Fault (List Char)
  | [] => .error (.before .invalidNumber [])
  | '0' :: rest =>
    if rest.head?.any isDigit then .error (.within .invalidNumber rest) else skipAfterWhole rest
  | char :: rest =>
    if isDigit char then skipAfterWhole (rest.dropWhile isDigit)
    else .error (.within .invalidNumber (char :: rest))

/-- Passes over the key of a member and the colon after it. -/
def skipKey (text : List Char) : Except Fault (List Char) :=
  match skipBlank text with
  | '"' :: rest => do
    let rest ← skipString (rest.length + 1) rest
    match skipBlank rest with
    | ':' :: rest => .ok rest
    | [] => .error (.before .endInObject [])
    | rest => .error (.within .expectedColon rest)
  | [] => .error (.before .endInObject [])
  | rest => .error (.within .keyMustBeString rest)

/-- Where a text with open brackets goes on. -/
inductive Stage where
  | value
  /-- A value is complete, so that a comma or a closing bracket may follow. -/
  | complete
  /-- A bracket has just been opened, so that it may close or hold a first item. -/
  | opened
deriving DecidableEq, Repr, Inhabited

/-- Passes over the first item or the next one of the innermost open bracket, up to its value. -/
def skipToValue : Bracket → List Char → Except Fault (List Char)
  | .list, text => .ok text
  | .object, text => skipKey text

/-- Passes over the rest of a value from a stage on, in at most `limit` steps. -/
def skipFrom : (limit : Nat) → Stage → List Bracket → List Char → Except Fault (List Char)
  | 0, _, _, text => .error (.before .endInValue text)
  | _ + 1, .complete, [], text => .ok text
  | _ + 1, .opened, [], text => .ok text
  | limit + 1, .value, brackets, text =>
    match skipBlank text with
    | [] => .error (.before .endInValue [])
    | 'n' :: rest => do skipFrom limit .complete brackets (← word ['u', 'l', 'l'] rest)
    | 't' :: rest => do skipFrom limit .complete brackets (← word ['r', 'u', 'e'] rest)
    | 'f' :: rest => do skipFrom limit .complete brackets (← word ['a', 'l', 's', 'e'] rest)
    | '"' :: rest => do skipFrom limit .complete brackets (← skipString (rest.length + 1) rest)
    | '[' :: rest => skipFrom limit .opened (.list :: brackets) rest
    | '\x7b' :: rest => skipFrom limit .opened (.object :: brackets) rest
    | '-' :: rest => do skipFrom limit .complete brackets (← skipNumeral rest)
    | char :: rest =>
      if isDigit char then do
        skipFrom limit .complete brackets (← skipNumeral (char :: rest))
      else .error (.within .expectedValue (char :: rest))
  | limit + 1, stage, bracket :: outer, text =>
    match skipBlank text with
    | [] => .error (.before bracket.endCause [])
    | char :: rest =>
      if char = bracket.closing then skipFrom limit .complete outer rest
      else if stage = .opened then do
        skipFrom limit .value (bracket :: outer) (← skipToValue bracket (char :: rest))
      else if char = ',' then do
        skipFrom limit .value (bracket :: outer) (← skipToValue bracket rest)
      else .error (.within bracket.commaCause (char :: rest))

/-- Passes over a value. Every character is worth at most two steps. -/
def skipValue (text : List Char) : Except Fault (List Char) :=
  skipFrom (2 * text.length + 2) .value [] text

end NodeLookup.Json
