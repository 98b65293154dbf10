import NodeLookup.Json.Number
import NodeLookup.Text.Quoted

/-!
# Values and their text

A document as a tree, and the two layouts in which it is written: compact, without any blank, and
indented by two spaces a level. Members keep their order and may repeat a key.
-/

namespace NodeLookup.Json

/-- A value of a document. -/
inductive Value where
  | null
  | boolean (value : Bool)
  | number (value : Number)
  | string (value : String)
  | list (items : List Value)
  | object (members : List (String × Value))
deriving Repr, Inhabited

/-- A string, or `null` for none. -/
def Value.ofString? : Option String → Value
  | none => .null
  | some text => .string text

/-- The written form of one character of a string. Only quotes, backslashes and controls are
escaped. -/
def writtenChar (char : Char) : List Char :=
  match char with
  | '"' => ['\\', '"']
  | '\\' => ['\\', '\\']
  | '\x08' => ['\\', 'b']
  | '\x0c' => ['\\', 'f']
  | '\n' => ['\\', 'n']
  | '\r' => ['\\', 'r']
  | '\t' => ['\\', 't']
  | char =>
    if char.toNat < 0x20 then
      ['\\', 'u', '0', '0', Text.hexDigit (char.toNat / 16), Text.hexDigit (char.toNat % 16)]
    else [char]

/-- The written form of a string. -/
def writtenString (text : String) : List Char :=
  '"' :: (text.toList.flatMap writtenChar ++ ['"'])

/-- The written form of a truth value. -/
def writtenBool : Bool → List Char
  | true => ['t', 'r', 'u', 'e']
  | false => ['f', 'a', 'l', 's', 'e']

mutual

/-- The text of a value without any blank. -/
def Value.compact : Value → List Char
  | .null => ['n', 'u', 'l', 'l']
  | .boolean value => writtenBool value
  | .number value => value.render
  | .string text => writtenString text
  | .list items => '[' :: (compactItems items ++ [']'])
  | .object members => '\x7b' :: (compactMembers members ++ ['\x7d'])

/-- The texts of list items, with commas between them. -/
def compactItems : List Value → List Char
  | [] => []
  | [item] => item.compact
  | item :: next :: items => item.compact ++ ',' :: compactItems (next :: items)

/-- The texts of members, with commas between them. -/
def compactMembers : List (String × Value) → List Char
  | [] => []
  | [(key, value)] => writtenString key ++ ':' :: value.compact
  | (key, value) :: next :: members =>
    writtenString key ++ ':' :: (value.compact ++ ',' :: compactMembers (next :: members))

end

/-- The start of a line at a level. -/
def lineStart (level : Nat) : List Char := '\n' :: List.replicate (2 * level) ' '

mutual

/-- The text of a value on a level, with every item and member on a line of its own. -/
def Value.indented (level : Nat) : Value → List Char
  | .null => ['n', 'u', 'l', 'l']
  | .boolean value => writtenBool value
  | .number value => value.render
  | .string text => writtenString text
  | .list [] => ['[', ']']
  | .list items => '[' :: (indentedItems (level + 1) items ++ lineStart level ++ [']'])
  | .object [] => ['\x7b', '\x7d']
  | .object members =>
    '\x7b' :: (indentedMembers (level + 1) members ++ lineStart level ++ ['\x7d'])

/-- The lines of list items on a level. -/
def indentedItems (level : Nat) : List Value → List Char
  | [] => []
  | [item] => lineStart level ++ item.indented level
  | item :: next :: items =>
    lineStart level ++ item.indented level ++ ',' :: indentedItems level (next :: items)

/-- The lines of members on a level. -/
def indentedMembers (level : Nat) : List (String × Value) → List Char
  | [] => []
  | [(key, value)] => lineStart level ++ writtenString key ++ ':' :: ' ' :: value.indented level
  | (key, value) :: next :: members =>
    lineStart level ++ writtenString key ++ ':' :: ' ' ::
      (value.indented level ++ ',' :: indentedMembers level (next :: members))

end

end NodeLookup.Json
