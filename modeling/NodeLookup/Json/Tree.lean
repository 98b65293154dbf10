import NodeLookup.Json.Reader
import NodeLookup.Json.Value

/-!
# Reading whole documents

A document read into a tree. Here every value is read in full, whether anything asks for it or not:
numbers have to be in range, surrogate escapes have to pair, and brackets may nest only so deep.
-/

namespace NodeLookup.Json

open Text (isDigit)

/-- How deep brackets may nest: one level less than this. -/
def depthLimit : Nat := 128

mutual

/-- Reads a value, in at most `limit` steps and with `depth` levels left. -/
def readValue : (limit : Nat) → (depth : Nat) → Reader Value
  | 0, _, text => .error (.before .endInValue text)
  | limit + 1, depth, text =>
    match skipBlank text with
    | [] => .error (.before .endInValue [])
    | 'n' :: rest => do .ok (.null, ← word ['u', 'l', 'l'] rest)
    | 't' :: rest => do .ok (.boolean true, ← word ['r', 'u', 'e'] rest)
    | 'f' :: rest => do .ok (.boolean false, ← word ['a', 'l', 's', 'e'] rest)
    | '"' :: rest => do
      let (value, rest) ← string rest
      .ok (.string value, rest)
    | '-' :: rest => do
      let (value, rest) ← numeral true rest
      .ok (.number value, rest)
    | '[' :: rest =>
      if depth ≤ 1 then .error (.within .recursionLimit ('[' :: rest))
      else do
        let (values, rest) ← readItems limit (depth - 1) true rest
        .ok (.list values, rest)
    | '\x7b' :: rest =>
      if depth ≤ 1 then .error (.within .recursionLimit ('\x7b' :: rest))
      else do
        let (members, rest) ← readMembers limit (depth - 1) true rest
        .ok (.object members, rest)
    | char :: rest =>
      if isDigit char then do
        let (value, rest) ← numeral false (char :: rest)
        .ok (.number value, rest)
      else .error (.within .expectedValue (char :: rest))

/-- Reads the items of a list, after its opening bracket. -/
def readItems : (limit : Nat) → (depth : Nat) → (first : Bool) → Reader (List Value)
  | 0, _, _, text => .error (.before .endInList text)
  | limit + 1, depth, first, text => do
    match ← nextItem first text with
    | .inr rest => .ok ([], rest)
    | .inl rest =>
      let (item, rest) ← readValue limit depth rest
      let (more, rest) ← readItems limit depth false rest
      .ok (item :: more, rest)

/-- Reads the members of an object, after its opening brace. -/
def readMembers : (limit : Nat) → (depth : Nat) → (first : Bool) → Reader (List (String × Value))
  | 0, _, _, text => .error (.before .endInObject text)
  | limit + 1, depth, first, text => do
    match ← nextMember first text with
    | .inr rest => .ok ([], rest)
    | .inl rest =>
      let (key, rest) ← string rest
      let (value, rest) ← readValue limit depth (← colon rest)
      let (more, rest) ← readMembers limit depth false rest
      .ok ((key, value) :: more, rest)

end

/-- Reads any value. Every character is worth at most two steps. -/
def anyValue : Reader Value := fun text => readValue (2 * text.length + 2) depthLimit text

/-- The tree of a whole text. -/
def Value.decode (body : String) : Except Failure Value := Json.decode anyValue body

end NodeLookup.Json
