/-!
# Places in a text

A cursor holds the unread characters of a text and where they start. Only a line feed ends a line for
the count of columns; a carriage return is a break too, but leaves the column alone.
-/

namespace NodeLookup.Yaml

/-- A place in a text. -/
structure Cursor where
  rest : List Char
  index : Nat := 0
  line : Nat := 0
  column : Nat := 0
deriving Repr, Inhabited

/-- Whether a character ends a line. -/
def isBreak (char : Char) : Bool := char == '\n' || char == '\r'

/-- Whether a character is white space within a line. -/
def isBlank (char : Char) : Bool := char == ' ' || char == '\t'

/-- Whether a character can stand in the names of anchors, handles and directives. -/
def isNameChar (char : Char) : Bool :=
  ('0' ≤ char && char ≤ '9') || ('a' ≤ char && char ≤ 'z') || ('A' ≤ char && char ≤ 'Z') ||
    char == '_' || char == '-'

/-- Whether a character has a meaning of its own between brackets. -/
def isFlow (char : Char) : Bool := [',', '[', ']', '\x7b', '\x7d'].contains char

namespace Cursor

/-- The next character. -/
def char? (cursor : Cursor) : Option Char := cursor.rest.head?

/-- The character after the next one. -/
def second? (cursor : Cursor) : Option Char := (cursor.rest.drop 1).head?

/-- Whether the next character is the given one. -/
def isAt (cursor : Cursor) (char : Char) : Bool := cursor.char? == some char

/-- Whether a character, or the end of the text in its place, ends a word. -/
def endsWord (char : Option Char) : Bool :=
  match char with
  | none => true
  | some char => isBlank char || isBreak char

/-- Whether a character, or the end of the text in its place, ends a line. -/
def endsLine (char : Option Char) : Bool :=
  match char with
  | none => true
  | some char => isBreak char

/-- Reads a character that is known. -/
def past (cursor : Cursor) (char : Char) : Cursor :=
  if char = '\n' then ⟨cursor.rest.drop 1, cursor.index + 1, cursor.line + 1, 0⟩
  else ⟨cursor.rest.drop 1, cursor.index + 1, cursor.line, cursor.column + 1⟩

/-- Reads one character. -/
def skip (cursor : Cursor) : Cursor :=
  match cursor.rest with
  | [] => cursor
  | char :: _ => cursor.past char

/-- Reads as many characters. -/
def skipMany (cursor : Cursor) (count : Nat) : Cursor := (cursor.rest.take count).foldl past cursor

/-- Reads a break, a carriage return and a line feed being one. -/
def skipBreak (cursor : Cursor) : Cursor :=
  match cursor.rest with
  | '\r' :: '\n' :: _ => cursor.skip.skip
  | char :: _ => if isBreak char then cursor.skip else cursor
  | [] => cursor

/-- Reads the characters that satisfy a predicate, up to the first that does not. -/
def takeWhile (cursor : Cursor) (accept : Char → Bool) : List Char × Cursor :=
  let chars := cursor.rest.takeWhile accept
  (chars, cursor.skipMany chars.length)

/-- Passes over the characters that satisfy a predicate. -/
def skipWhile (cursor : Cursor) (accept : Char → Bool) : Cursor := (cursor.takeWhile accept).2

/-- Passes over a comment, if one starts here. -/
def skipComment (cursor : Cursor) : Cursor :=
  if cursor.isAt '#' then cursor.skipWhile fun char => !isBreak char else cursor

/-- Whether three characters at the start of a line, followed by the end of a word, start here. -/
def atMark (cursor : Cursor) (char : Char) : Bool :=
  cursor.column == 0 && cursor.rest.take 3 == [char, char, char] && endsWord (cursor.rest.drop 3).head?

/-- Whether a mark of the start or the end of a document starts here. -/
def atDocumentMark (cursor : Cursor) : Bool := cursor.atMark '-' || cursor.atMark '.'

end Cursor

end NodeLookup.Yaml
