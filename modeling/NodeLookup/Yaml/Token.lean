import NodeLookup.Yaml.Scalar

/-!
# Tokens

A text as the marks of its structure. Indentation becomes brackets: a block opens where a line goes
further in than the block around it and closes where one goes back. A key of a mapping shows only at
the colon after it, so every place that may start one is remembered as a candidate, and the tokens of
the key are put in there when its colon comes.
-/

namespace NodeLookup.Yaml

/-- How a scalar is written. Only a plain one can stand for something other than its text. -/
inductive Style where
  | plain
  | marked
deriving DecidableEq, Repr, Inhabited

/-- The tag of a node, as its handle and what follows it. -/
structure Tag where
  handle : String
  suffix : String
deriving DecidableEq, Repr, Inhabited

/-- A mark of the structure of a text. The end of the text has none. -/
inductive Token where
  | directive
  | documentStart
  | documentEnd
  | blockSequenceStart
  | blockMappingStart
  | blockEnd
  | blockEntry
  | flowSequenceStart
  | flowSequenceEnd
  | flowMappingStart
  | flowMappingEnd
  | flowEntry
  | key
  | value
  | reference (name : String)
  | anchor (name : String)
  | tag (tag : Tag)
  | scalar (style : Style) (text : String)
deriving DecidableEq, Repr, Inhabited

/-- A place where a key may have started. -/
structure Candidate where
  /-- Whether the text is malformed unless one did. -/
  required : Bool
  tokenCount : Nat
  index : Nat
  line : Nat
  column : Nat
deriving DecidableEq, Repr, Inhabited

/-- What is known while a text is cut into tokens. -/
structure Scan where
  cursor : Cursor
  tokens : List Token := []
  count : Nat := 0
  indent : Int := -1
  outer : List Int := []
  /-- The candidate of each open bracket, innermost first, and that of the text outside them. -/
  candidates : List (Option Candidate) := [none]
  keyAllowed : Bool := true
  /-- The index after the last quoted scalar, where a colon needs no space between brackets. -/
  adjacent : Nat := 0
deriving Repr, Inhabited

namespace Scan

/-- How many brackets may be open at once. -/
def greatestFlow : Nat := 255

/-- How many brackets are open. -/
def flow (scan : Scan) : Nat := scan.candidates.length - 1

/-- Appends a token. -/
def push (scan : Scan) (token : Token) : Scan :=
  { scan with tokens := token :: scan.tokens, count := scan.count + 1 }

/-- Puts a token in where `position` tokens come before it. -/
def insert (scan : Scan) (position : Nat) (token : Token) : Scan :=
  let later := scan.count - position
  { scan with
    tokens := scan.tokens.take later ++ token :: scan.tokens.drop later, count := scan.count + 1 }

/-- Goes on at another place. -/
def moveTo (scan : Scan) (cursor : Cursor) : Scan := { scan with cursor }

/-- The candidate of the innermost bracket. -/
def candidate? (scan : Scan) : Option Candidate := (scan.candidates.head?).join

/-- Sets the candidate of the innermost bracket. -/
def setCandidate (scan : Scan) (candidate : Option Candidate) : Scan :=
  { scan with candidates := candidate :: scan.candidates.drop 1 }

/-- Gives up the candidate of the innermost bracket. -/
def dropCandidate (scan : Scan) : Option Scan :=
  if scan.candidate?.any (·.required) then none else some (scan.setCandidate none)

/-- Remembers this place as a candidate, if a key may start here. -/
def saveCandidate (scan : Scan) : Option Scan :=
  if scan.keyAllowed then
    scan.dropCandidate.map fun scan =>
      scan.setCandidate (some {
        required := decide (0 < scan.flow) && scan.indent == (scan.cursor.column : Int)
        tokenCount := scan.count
        index := scan.cursor.index
        line := scan.cursor.line
        column := scan.cursor.column })
  else some scan

/-- Whether a key can no longer have started at a candidate: it ends on its line, and is short. -/
def isStale (scan : Scan) (candidate : Candidate) : Bool :=
  candidate.line < scan.cursor.line || candidate.index + 1024 < scan.cursor.index

/-- Gives up the candidates at which a key can no longer have started. -/
def dropStale (scan : Scan) : Option Scan :=
  if scan.candidates.any fun candidate => candidate.any fun c => scan.isStale c && c.required then none
  else
    some { scan with
      candidates := scan.candidates.map fun candidate => candidate.filter fun c => !scan.isStale c }

/-- Opens a block at a column, if that is further in, with its token after `position` others or at
the end. -/
def roll (scan : Scan) (column : Nat) (position : Option Nat) (token : Token) : Scan :=
  if 0 < scan.flow ∨ (column : Int) ≤ scan.indent then scan
  else
    let deeper := { scan with outer := scan.indent :: scan.outer, indent := column }
    match position with
    | some position => deeper.insert position token
    | none => deeper.push token

/-- Closes blocks until none starts after a column. -/
def unrollFrom (column : Int) : (outer : List Int) → Scan → Scan
  | outer, scan =>
    if scan.indent ≤ column then scan
    else
      match outer with
      | [] => scan
      | indent :: outer =>
        unrollFrom column outer { scan.push .blockEnd with indent, outer }

/-- Closes the blocks that start after a column, outside brackets. -/
def unroll (scan : Scan) (column : Int) : Scan :=
  if 0 < scan.flow then scan else unrollFrom column scan.outer scan

/-- Passes over blanks, breaks and comments, in at most `limit` steps. A tab is no indentation. -/
def skipGap : (limit : Nat) → Scan → Scan
  | 0, scan => scan
  | limit + 1, scan =>
    match scan.cursor.char? with
    | some ' ' => skipGap limit (scan.moveTo scan.cursor.skip)
    | some '\t' =>
      if 0 < scan.flow ∨ !scan.keyAllowed then skipGap limit (scan.moveTo scan.cursor.skip) else scan
    | some '#' => skipGap limit (scan.moveTo scan.cursor.skipComment)
    | some char =>
      if isBreak char then
        skipGap limit { scan with
          cursor := scan.cursor.skipBreak, keyAllowed := scan.keyAllowed || scan.flow == 0 }
      else scan
    | none => scan

end Scan

/-- Whether a character can stand in the address part of a tag. -/
def isTagChar (char : Char) : Bool :=
  isNameChar char ||
    [';', '/', '?', ':', '@', '&', '=', '+', '$', ',', '.', '!', '~', '*', '\x27', '(', ')', '[', ']',
      '%'].contains char

/-- How many bytes a character takes by the first of them. -/
def octetWidth? (octet : Nat) : Option Nat :=
  if octet < 0x80 then some 1
  else if octet < 0xC0 then none
  else if octet < 0xE0 then some 2
  else if octet < 0xF0 then some 3
  else if octet < 0xF8 then some 4
  else none

/-- The byte that a percent sign and two digits at the start of a text spell. -/
def octetAt? : List Char → Option (Nat × List Char)
  | '%' :: first :: second :: rest =>
    match Text.hexValue? first, Text.hexValue? second with
    | some high, some low => some (high * 16 + low, rest)
    | _, _ => none
  | _ => none

/-- Reads the bytes that are missing from a percent-encoded character. Their whole bits count. -/
def moreOctets? : (missing : Nat) → (code : Nat) → List Char → Option (Nat × List Char)
  | 0, code, rest => some (code, rest)
  | missing + 1, code, rest =>
    match octetAt? rest with
    | none => none
    | some (octet, rest) =>
      if octet < 0x80 ∨ 0xBF < octet then none else moreOctets? missing (code * 256 + octet) rest

/-- Reads a percent-encoded character. -/
def tagEscape? (rest : List Char) : Option (Char × List Char) := do
  let (octet, rest) ← octetAt? rest
  let width ← octetWidth? octet
  let (code, rest) ← moreOctets? (width - 1) octet rest
  let char ← charOf? code
  some (char, rest)

/-- Reads the address part of a tag, in at most `limit` characters. -/
def tagChars? : (limit : Nat) → List Char → Option (List Char × List Char)
  | 0, rest => some ([], rest)
  | _ + 1, [] => some ([], [])
  | limit + 1, char :: rest =>
    if !isTagChar char then some ([], char :: rest)
    else if char = '%' then do
      let (char, rest) ← tagEscape? (char :: rest)
      let (chars, rest) ← tagChars? limit rest
      some (char :: chars, rest)
    else do
      let (chars, rest) ← tagChars? limit rest
      some (char :: chars, rest)

/-- Reads the address part of a tag at a cursor. It may only be empty after `head` characters. -/
def readTagAddress (head : Nat) (cursor : Cursor) : Option (List Char × Cursor) := do
  let (chars, rest) ← tagChars? cursor.rest.length cursor.rest
  let after := cursor.skipMany (cursor.rest.length - rest.length)
  if head = 0 ∧ after.index = cursor.index then none else some (chars, after)

/-- Reads the handle of a tag. In a directive it has to end as it starts, unless it is a single
mark. -/
def readTagHandle (inDirective : Bool) (cursor : Cursor) : Option (List Char × Cursor) :=
  if !cursor.isAt '!' then none
  else
    let (name, after) := cursor.skip.takeWhile isNameChar
    if after.isAt '!' then some ('!' :: name ++ ['!'], after.skip)
    else if inDirective && !name.isEmpty then none
    else some ('!' :: name, after)

/-- Reads a tag. -/
def readTag (cursor : Cursor) : Option (Tag × Cursor) := do
  let (tag, after) ←
    if cursor.second? == some '<' then do
      let (suffix, after) ← readTagAddress 0 (cursor.skipMany 2)
      if after.isAt '>' then some (Tag.mk "" (String.ofList suffix), after.skip) else none
    else do
      let (handle, after) ← readTagHandle false cursor
      if 2 ≤ handle.length ∧ handle.getLast? = some '!' then do
        let (suffix, after) ← readTagAddress 0 after
        some (Tag.mk (String.ofList handle) (String.ofList suffix), after)
      else do
        let (suffix, after) ← readTagAddress handle.length after
        let suffix := handle.drop 1 ++ suffix
        some (if suffix.isEmpty then Tag.mk "" "!" else Tag.mk "!" (String.ofList suffix), after)
  if Cursor.endsWord after.char? then some (tag, after) else none

/-- Reads the name of an anchor or an alias, after its mark. -/
def readName (cursor : Cursor) : Option (String × Cursor) :=
  let (name, after) := cursor.takeWhile isNameChar
  let ends := Cursor.endsWord after.char? ||
    after.char?.any ['?', ':', ',', ']', '\x7d', '%', '@', '\x60'].contains
  if name.isEmpty || !ends then none else some (String.ofList name, after)

/-- Reads a part of the number in a version directive. -/
def readVersionNumber (cursor : Cursor) : Option Cursor :=
  let (digits, after) := cursor.takeWhile Text.isDigit
  if digits.isEmpty || 9 < digits.length then none else some after

/-- Reads what stands in a directive of a name. -/
def readDirectiveValue (name : List Char) (cursor : Cursor) : Option Cursor :=
  if name = ['Y', 'A', 'M', 'L'] then do
    let after ← readVersionNumber (cursor.skipWhile isBlank)
    if after.isAt '.' then readVersionNumber after.skip else none
  else if name = ['T', 'A', 'G'] then do
    let (_, after) ← readTagHandle true (cursor.skipWhile isBlank)
    let (_, after) ← readTagAddress 0 (after.skipWhile isBlank)
    if Cursor.endsWord after.char? then some after else none
  else some (cursor.skipWhile fun char => !isBreak char)

/-- Reads a directive, at its percent sign. -/
def readDirective (cursor : Cursor) : Option Cursor := do
  let (name, after) := cursor.skip.takeWhile isNameChar
  if name.isEmpty || !Cursor.endsWord after.char? then none
  else
    let after ← readDirectiveValue name after
    let after := (after.skipWhile isBlank).skipComment
    if Cursor.endsLine after.char? then some after.skipBreak else none

namespace Scan

/-- Takes a mark of the start or the end of a document. -/
def takeDocumentMark (scan : Scan) (token : Token) : Option Scan := do
  let scan ← (scan.unroll (-1)).dropCandidate
  some ({ scan with keyAllowed := false, cursor := scan.cursor.skipMany 3 }.push token)

/-- Takes a directive. -/
def takeDirective (scan : Scan) : Option Scan := do
  let scan ← (scan.unroll (-1)).dropCandidate
  let after ← readDirective scan.cursor
  some ({ scan with keyAllowed := false, cursor := after }.push .directive)

/-- Takes an opening bracket. -/
def takeFlowStart (scan : Scan) (token : Token) : Option Scan := do
  let scan ← scan.saveCandidate
  if greatestFlow ≤ scan.flow then none
  else
    some ({ scan with
      candidates := none :: scan.candidates, keyAllowed := true,
      cursor := scan.cursor.skip }.push token)

/-- Takes a closing bracket, also one that was never opened. -/
def takeFlowEnd (scan : Scan) (token : Token) : Option Scan := do
  let scan ← scan.dropCandidate
  let candidates := if 0 < scan.flow then scan.candidates.drop 1 else scan.candidates
  some ({ scan with candidates, keyAllowed := false, cursor := scan.cursor.skip }.push token)

/-- Takes a comma between brackets. -/
def takeFlowEntry (scan : Scan) : Option Scan := do
  let scan ← scan.dropCandidate
  some ({ scan with keyAllowed := true, cursor := scan.cursor.skip }.push .flowEntry)

/-- Takes the mark of an item of a list by indentation. -/
def takeBlockEntry (scan : Scan) : Option Scan :=
  if 0 < scan.flow ∨ !scan.keyAllowed then none
  else do
    let scan ← (scan.roll scan.cursor.column none .blockSequenceStart).dropCandidate
    some ({ scan with keyAllowed := true, cursor := scan.cursor.skip }.push .blockEntry)

/-- Takes the mark of a key. -/
def takeKey (scan : Scan) : Option Scan :=
  if scan.flow = 0 ∧ !scan.keyAllowed then none
  else do
    let scan ← (scan.roll scan.cursor.column none .blockMappingStart).dropCandidate
    some ({ scan with keyAllowed := scan.flow == 0, cursor := scan.cursor.skip }.push .key)

/-- Takes the mark of a value. If there is a candidate for the key before it, that was one. -/
def takeValue (scan : Scan) : Option Scan :=
  match scan.candidate? with
  | some candidate =>
    let keyed := scan.insert candidate.tokenCount .key
    let rolled := keyed.roll candidate.column (some candidate.tokenCount) .blockMappingStart
    let closed := rolled.setCandidate none
    some ({ closed with keyAllowed := false, cursor := scan.cursor.skip }.push .value)
  | none =>
    if scan.flow = 0 ∧ !scan.keyAllowed then none
    else
      let rolled := scan.roll scan.cursor.column none .blockMappingStart
      some ({ rolled with keyAllowed := scan.flow == 0, cursor := scan.cursor.skip }.push .value)

/-- Takes an alias or an anchor. -/
def takeName (scan : Scan) (token : String → Token) : Option Scan := do
  let scan ← scan.saveCandidate
  let (name, after) ← readName scan.cursor.skip
  some ({ scan with keyAllowed := false, cursor := after }.push (token name))

/-- Takes a tag. -/
def takeTag (scan : Scan) : Option Scan := do
  let scan ← scan.saveCandidate
  let (tag, after) ← readTag scan.cursor
  some ({ scan with keyAllowed := false, cursor := after }.push (.tag tag))

/-- Takes a scalar as a block of lines. -/
def takeBlock (scan : Scan) (literal : Bool) : Option Scan := do
  let scan ← scan.saveCandidate
  let reading ← readBlock literal scan.indent scan.cursor.skip
  some ({ scan with keyAllowed := true, cursor := reading.after }.push
    (.scalar .marked (String.ofList reading.text)))

/-- Takes a scalar between quotes. -/
def takeQuoted (scan : Scan) (single : Bool) : Option Scan := do
  let scan ← scan.saveCandidate
  let reading ← readQuoted single (scan.cursor.rest.length + 1) [] scan.cursor.skip
  some ({ scan with
    keyAllowed := false, cursor := reading.after, adjacent := reading.after.index }.push
    (.scalar .marked (String.ofList reading.text)))

/-- Takes a plain scalar. -/
def takePlain (scan : Scan) : Option Scan := do
  let scan ← scan.saveCandidate
  let reading ←
    readPlain (0 < scan.flow) (scan.indent + 1) (scan.cursor.rest.length + 1) [] {} scan.cursor
  some ({ scan with keyAllowed := reading.broken, cursor := reading.after }.push
    (.scalar .plain (String.ofList reading.text)))

/-- Takes what starts with a character. -/
def take (scan : Scan) (char : Char) : Option Scan :=
  let next := scan.cursor.second?
  let spaced := Cursor.endsWord next
  let inFlow := 0 < scan.flow
  match char with
  | '[' => scan.takeFlowStart .flowSequenceStart
  | '\x7b' => scan.takeFlowStart .flowMappingStart
  | ']' => scan.takeFlowEnd .flowSequenceEnd
  | '\x7d' => scan.takeFlowEnd .flowMappingEnd
  | ',' => scan.takeFlowEntry
  | '*' => scan.takeName .reference
  | '&' => scan.takeName .anchor
  | '!' => scan.takeTag
  | '\x27' => scan.takeQuoted true
  | '"' => scan.takeQuoted false
  | '-' => if spaced then scan.takeBlockEntry else scan.takePlain
  | '?' =>
    if spaced then scan.takeKey else scan.takePlain
  | ':' =>
    if spaced || (inFlow && (next.any isFlow || scan.cursor.index == scan.adjacent)) then
      scan.takeValue
    else scan.takePlain
  | '|' => if inFlow then scan.takePlain else scan.takeBlock true
  | '>' => if inFlow then scan.takePlain else scan.takeBlock false
  | '%' => none
  | '@' => none
  | '\x60' => none
  | _ => scan.takePlain

/-- Ends the text: closes all blocks. -/
def finish (scan : Scan) : Option (List Token) :=
  (scan.unroll (-1)).dropCandidate.map fun scan => scan.tokens.reverse

/-- Takes tokens to the end of the text, at most `limit` of them. -/
def run : (limit : Nat) → Scan → Option (List Token)
  | 0, _ => none
  | limit + 1, scan => do
    let scan ← (skipGap (scan.cursor.rest.length + 1) scan).dropStale
    let scan := scan.unroll scan.cursor.column
    match scan.cursor.char? with
    | none => scan.finish
    | some char =>
      if scan.cursor.column = 0 ∧ char = '%' then run limit (← scan.takeDirective)
      else if scan.cursor.atMark '-' then run limit (← scan.takeDocumentMark .documentStart)
      else if scan.cursor.atMark '.' then run limit (← scan.takeDocumentMark .documentEnd)
      else run limit (← scan.take char)

end Scan

/-- The tokens of a text, or nothing if it is malformed. The text ends at its first null character. -/
def Token.ofText? (text : List Char) : Option (List Token) :=
  let text := text.takeWhile (· != '\x00')
  Scan.run (text.length + 2) { cursor := { rest := text } }

end NodeLookup.Yaml
