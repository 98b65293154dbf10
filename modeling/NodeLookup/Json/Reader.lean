import NodeLookup.Json.Skip

/-!
# Readers of values

Readers for the values that a record holds, and the reader of records themselves. A record is
written as an object, whose members come in any order and may include unknown ones, or as the list
of its members' values in the order in which the record declares them.
-/

namespace NodeLookup.Json

open Text (isDigit)

/-- The fault of a value, not starting with a blank, where another kind was wanted. A scalar is read
whole before it is refused; a list or an object is refused at sight. -/
def misfit (expected : String) (text : List Char) : Fault :=
  let refuse (found : Found) (read : Except Fault (List Char)) : Fault :=
    match read with
    | .ok rest => .before (.invalidType found expected) rest
    | .error fault => fault
  let refuseNumber (read : Except Fault (Number × List Char)) : Fault :=
    match read with
    | .ok (number, rest) => .before (.invalidType (.number number) expected) rest
    | .error fault => fault
  match text with
  | [] => .before .endInValue []
  | 'n' :: rest => refuse .null (word ['u', 'l', 'l'] rest)
  | 't' :: rest => refuse (.boolean true) (word ['r', 'u', 'e'] rest)
  | 'f' :: rest => refuse (.boolean false) (word ['a', 'l', 's', 'e'] rest)
  | '"' :: rest =>
    match string rest with
    | .ok (value, rest) => .before (.invalidType (.string value) expected) rest
    | .error fault => fault
  | '[' :: _ => .before (.invalidType .sequence expected) text
  | '\x7b' :: _ => .before (.invalidType .map expected) text
  | '-' :: rest => refuseNumber (numeral true rest)
  | char :: _ =>
    if isDigit char then refuseNumber (numeral false text) else .within .expectedValue text

/-- Reads a string. -/
def stringValue : Reader String := fun text =>
  match skipBlank text with
  | '"' :: rest => string rest
  | rest => .error (misfit "a string" rest)

/-- Reads `null` as nothing, and anything else as the reader does. -/
def optional {α : Type} (read : Reader α) : Reader (Option α) := fun text =>
  match skipBlank text with
  | 'n' :: rest => do .ok (none, ← word ['u', 'l', 'l'] rest)
  | rest => do
    let (value, rest) ← read rest
    .ok (some value, rest)

/-- The greatest count that is read. -/
def greatestCount : Nat := 0xFFFFFFFF

/-- Judges a number where a count is wanted. -/
def countOf (number : Number) (rest : List Char) : Except Fault (Nat × List Char) :=
  match number with
  | .natural value =>
    if value ≤ greatestCount then .ok (value, rest)
    else .error (.before (.invalidValue (.number number) "u32") rest)
  | .negative _ => .error (.before (.invalidValue (.number number) "u32") rest)
  | .floating _ _ => .error (.before (.invalidType (.number number) "u32") rest)

/-- Reads a natural number of at most thirty-two bits. -/
def countValue : Reader Nat := fun text =>
  match skipBlank text with
  | '-' :: rest => do
    let (number, rest) ← numeral true rest
    countOf number rest
  | char :: rest =>
    if isDigit char then do
      let (number, rest) ← numeral false (char :: rest)
      countOf number rest
    else .error (misfit "u32" (char :: rest))
  | [] => .error (.before .endInValue [])

/-- Looks for a further item of a list: the text from it on, or the text after the closing
bracket. -/
def nextItem (first : Bool) (text : List Char) : Except Fault (List Char ⊕ List Char) :=
  match skipBlank text with
  | [] => .error (.before .endInList [])
  | ']' :: rest => .ok (.inr rest)
  | char :: rest =>
    if first then .ok (.inl (char :: rest))
    else if char = ',' then
      match skipBlank rest with
      | [] => .error (.before .endInValue [])
      | ']' :: rest => .error (.within .trailingComma (']' :: rest))
      | rest => .ok (.inl rest)
    else .error (.within .expectedListCommaOrEnd (char :: rest))

/-- Reads the items of a list, after its opening bracket, in at most `limit` steps. -/
def items {α : Type} (read : Reader α) : (limit : Nat) → (first : Bool) → Reader (List α)
  | 0, _, text => .error (.before .endInList text)
  | limit + 1, first, text => do
    match ← nextItem first text with
    | .inr rest => .ok ([], rest)
    | .inl rest =>
      let (item, rest) ← read rest
      let (more, rest) ← items read limit false rest
      .ok (item :: more, rest)

/-- Reads a list. -/
def listOf {α : Type} (read : Reader α) : Reader (List α) := fun text =>
  match skipBlank text with
  | '[' :: rest => items read (rest.length + 1) true rest
  | rest => .error (misfit "a sequence" rest)

/-- Looks for a further member of an object: the text after the opening quote of its key, or the
text after the closing brace. -/
def nextMember (first : Bool) (text : List Char) : Except Fault (List Char ⊕ List Char) :=
  match skipBlank text with
  | [] => .error (.before .endInObject [])
  | '\x7d' :: rest => .ok (.inr rest)
  | char :: rest =>
    if first then
      if char = '"' then .ok (.inl rest) else .error (.within .keyMustBeString (char :: rest))
    else if char = ',' then
      match skipBlank rest with
      | [] => .error (.before .endInValue [])
      | '"' :: rest => .ok (.inl rest)
      | '\x7d' :: rest => .error (.within .trailingComma ('\x7d' :: rest))
      | rest => .error (.within .keyMustBeString rest)
    else .error (.within .expectedObjectCommaOrEnd (char :: rest))

/-- Passes over the colon between a key and its value. -/
def colon (text : List Char) : Except Fault (List Char) :=
  match skipBlank text with
  | [] => .error (.before .endInObject [])
  | ':' :: rest => .ok rest
  | rest => .error (.within .expectedColon rest)

/-- Reads the members of an object as pairs in the order of the text, after its opening brace, in at
most `limit` steps. -/
def entries {α : Type} (read : Reader α) :
    (limit : Nat) → (first : Bool) → Reader (List (String × α))
  | 0, _, text => .error (.before .endInObject text)
  | limit + 1, first, text => do
    match ← nextMember first text with
    | .inr rest => .ok ([], rest)
    | .inl rest =>
      let (key, rest) ← string rest
      let (value, rest) ← read (← colon rest)
      let (more, rest) ← entries read limit false rest
      .ok ((key, value) :: more, rest)

/-- A member of a record of type `σ`: its key, whether the record must have it, and how its value is
read into the record. -/
structure Member (σ : Type) where
  key : String
  required : Bool
  /-- Reads the value, as the change that it makes to the record. -/
  read : Reader (σ → σ)

/-- A member whose value is read by `read` and put into the record by `put`. -/
def Member.of {σ α : Type} (key : String) (required : Bool) (read : Reader α)
    (put : α → σ → σ) : Member σ where
  key := key
  required := required
  read := fun text => do
    let (value, rest) ← read text
    .ok (put value, rest)

/-- The shape of a record: the words that name it, its members in order, and the record that has
none of them. -/
structure Record (σ : Type) where
  name : String
  members : List (Member σ)
  blank : σ

namespace Record

variable {σ : Type} (record : Record σ)

/-- The member with a key. -/
def find? (key : String) : Option (Member σ) := record.members.find? (·.key == key)

/-- The words for the record in its list form. -/
def listForm : String :=
  let count := record.members.length
  "struct " ++ record.name ++ " with " ++ toString count ++
    (if count = 1 then " element" else " elements")

/-- What is unread when a faulty object has been given the chance to close. -/
def afterObject (text : List Char) : List Char :=
  match skipBlank text with
  | '\x7d' :: rest => rest
  | rest => rest

/-- The first member that the record must have and that is not among the given keys. -/
def missing? (seen : List String) : Option String :=
  (record.members.find? fun member => member.required && !seen.contains member.key).map (·.key)

/-- Reads the members of a record in its object form, after the opening brace, in at most `limit`
steps; `seen` holds the known keys read so far. -/
def objectMembers : (limit : Nat) → (first : Bool) → (seen : List String) → σ → Reader σ
  | 0, _, _, _, text => .error (.before .endInObject text)
  | limit + 1, first, seen, value, text => do
    match ← nextMember first text with
    | .inr rest =>
      match record.missing? seen with
      | some key => .error (.before (.missingField key) rest)
      | none => .ok (value, rest)
    | .inl rest =>
      let (key, rest) ← string rest
      match record.find? key with
      | none => objectMembers limit false seen value (← skipValue (← colon rest))
      | some member =>
        if seen.contains key then
          .error (.before (.duplicateField key) (afterObject rest))
        else
          let (change, rest) ← member.read (← colon rest)
          objectMembers limit false (key :: seen) (change value) rest

/-- Closes the list form of a record after its last member. -/
def closeList (text : List Char) : Except Fault (List Char) :=
  match skipBlank text with
  | [] => .error (.before .endInList [])
  | ']' :: rest => .ok rest
  | ',' :: rest =>
    match skipBlank rest with
    | ']' :: rest => .error (.within .trailingComma (']' :: rest))
    | rest => .error (.within .trailingCharacters rest)
  | rest => .error (.within .trailingCharacters rest)

/-- Reads the remaining members of a record in its list form. Those that the list does not reach keep
their blank values, unless the record must have them. -/
def listMembers : List (Member σ) → (index : Nat) → σ → Reader σ
  | [], _, value, text => do .ok (value, ← closeList text)
  | member :: members, index, value, text => do
    match ← nextItem (index == 0) text with
    | .inl rest =>
      let (change, rest) ← member.read rest
      listMembers members (index + 1) (change value) rest
    | .inr rest =>
      match (member :: members).findIdx? (·.required) with
      | some offset => .error (.before (.invalidLength (index + offset) record.listForm) rest)
      | none => .ok (value, rest)

/-- Reads a record in either form. -/
def read : Reader σ := fun text =>
  match skipBlank text with
  | [] => .error (.before .endInValue [])
  | '\x7b' :: rest => record.objectMembers (rest.length + 1) true [] record.blank rest
  | '[' :: rest => record.listMembers record.members 0 record.blank rest
  | rest => .error (misfit ("struct " ++ record.name) rest)

end Record

/-- Reads a whole text as one value. -/
def decode {α : Type} (read : Reader α) (body : String) : Except Failure α :=
  let text := body.toList
  match read text with
  | .error fault => .error (fault.locate text)
  | .ok (value, rest) =>
    match skipBlank rest with
    | [] => .ok value
    | rest => .error ((Fault.within .trailingCharacters rest).locate text)

end NodeLookup.Json
