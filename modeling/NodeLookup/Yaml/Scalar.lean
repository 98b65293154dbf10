import NodeLookup.Text.Digits
import NodeLookup.Yaml.Cursor

/-!
# Scalars

The text of a scalar in each of its styles: plain, between single or double quotes, and as a block of
lines. Breaks within plain and quoted text fold: a single one is a space, further ones stay.
-/

namespace NodeLookup.Yaml

/-- The white space between two words of a scalar. -/
structure Gap where
  blanks : List Char := []
  broken : Bool := false
  /-- Whether the first break counts, which an escaped one does not. -/
  counts : Bool := false
  more : Nat := 0
deriving Repr, Inhabited

/-- What a gap folds to. -/
def Gap.text (gap : Gap) : List Char :=
  if gap.broken then
    if gap.counts && gap.more == 0 then [' '] else List.replicate gap.more '\n'
  else gap.blanks

/-- Reads white space on top of a gap, in at most `limit` steps. A tab at the start of a line before
the column `tabsFrom` is refused. -/
def readGap (tabsFrom : Int) : (limit : Nat) → Gap → Cursor → Option (Gap × Cursor)
  | 0, gap, cursor => some (gap, cursor)
  | limit + 1, gap, cursor =>
    match cursor.char? with
    | none => some (gap, cursor)
    | some char =>
      if isBlank char then
        if gap.broken then
          if char = '\t' ∧ (cursor.column : Int) < tabsFrom then none
          else readGap tabsFrom limit gap cursor.skip
        else readGap tabsFrom limit { gap with blanks := gap.blanks ++ [char] } cursor.skip
      else if isBreak char then
        if gap.broken then readGap tabsFrom limit { gap with more := gap.more + 1 } cursor.skipBreak
        else readGap tabsFrom limit { broken := true, counts := true } cursor.skipBreak
      else some (gap, cursor)

/-- Whether a plain word ends here: before a colon that ends a word, and between brackets also before
what has a meaning there. -/
def endsPlain (inFlow : Bool) (cursor : Cursor) : Bool :=
  match cursor.char? with
  | none => true
  | some ':' =>
    Cursor.endsWord cursor.second? || (inFlow && cursor.second?.any isFlow)
  | some char => isBlank char || isBreak char || (inFlow && isFlow char)

/-- Reads a plain word, in at most `limit` characters. -/
def readWord (inFlow : Bool) : (limit : Nat) → Cursor → List Char × Cursor
  | 0, cursor => ([], cursor)
  | limit + 1, cursor =>
    match cursor.char? with
    | none => ([], cursor)
    | some char =>
      if endsPlain inFlow cursor then ([], cursor)
      else
        let (chars, after) := readWord inFlow limit cursor.skip
        (char :: chars, after)

/-- A scalar that was read: its text, where it ends, and whether it ends after a break. -/
structure Reading where
  text : List Char
  after : Cursor
  broken : Bool := false
deriving Repr, Inhabited

/-- Reads words and the gaps between them on top of a text and a gap, in at most `limit` steps. The
scalar ends at a line that is not indented as far as `indent`. -/
def readPlain (inFlow : Bool) (indent : Int) :
    (limit : Nat) → List Char → Gap → Cursor → Option Reading
  | 0, text, gap, cursor => some ⟨text, cursor, gap.broken⟩
  | limit + 1, text, gap, cursor =>
    if cursor.atDocumentMark || cursor.isAt '#' then some ⟨text, cursor, gap.broken⟩
    else
      let (word, after) := readWord inFlow cursor.rest.length cursor
      let text := if word.isEmpty then text else text ++ gap.text ++ word
      let gap := if word.isEmpty then gap else {}
      if after.char?.any fun char => isBlank char || isBreak char then
        match readGap indent after.rest.length gap after with
        | none => none
        | some (gap, after) =>
          if !inFlow && (after.column : Int) < indent then some ⟨text, after, gap.broken⟩
          else readPlain inFlow indent limit text gap after
      else some ⟨text, after, gap.broken⟩

/-- The character that a letter stands for after a backslash. -/
def letterEscape? : Char → Option Char
  | '0' => some '\x00'
  | 'a' => some '\x07'
  | 'b' => some '\x08'
  | 't' => some '\t'
  | '\t' => some '\t'
  | 'n' => some '\n'
  | 'v' => some '\x0b'
  | 'f' => some '\x0c'
  | 'r' => some '\r'
  | 'e' => some '\x1b'
  | ' ' => some ' '
  | '"' => some '"'
  | '\x27' => some '\x27'
  | '\\' => some '\\'
  | 'N' => some '\u0085'
  | '_' => some '\u00a0'
  | 'L' => some '\u2028'
  | 'P' => some '\u2029'
  | _ => none

/-- How many hexadecimal digits follow a letter after a backslash. -/
def escapeLength? : Char → Option Nat
  | 'x' => some 2
  | 'u' => some 4
  | 'U' => some 8
  | _ => none

/-- The character of a number, if there is one. -/
def charOf? (value : Nat) : Option Char :=
  if value < 0xD800 ∨ (0xDFFF < value ∧ value < 0x110000) then some (Char.ofNat value) else none

/-- The character that as many hexadecimal digits spell. -/
def hexChar? (count : Nat) (digits : List Char) : Option Char :=
  if digits.length < count then none
  else
    ((digits.take count).foldlM (fun value char =>
      (Text.hexValue? char).map fun digit => value * 16 + digit) 0).bind charOf?

/-- Reads an escape, at its backslash. -/
def readEscape (cursor : Cursor) : Option (Char × Cursor) :=
  match cursor.second? with
  | none => none
  | some letter =>
    match letterEscape? letter, escapeLength? letter with
    | some char, _ => some (char, cursor.skipMany 2)
    | none, some count =>
      (hexChar? count (cursor.rest.drop 2)).map fun char => (char, cursor.skipMany (2 + count))
    | none, none => none

/-- How a run of characters between quotes ends. -/
inductive RunEnd where
  | plain
  | escapedBreak
deriving DecidableEq, Repr, Inhabited

/-- Reads a run of characters between quotes, in at most `limit` steps. -/
def readRun (single : Bool) : (limit : Nat) → Cursor → Option (List Char × RunEnd × Cursor)
  | 0, cursor => some ([], .plain, cursor)
  | limit + 1, cursor =>
    match cursor.char? with
    | none => some ([], .plain, cursor)
    | some char =>
      if isBlank char || isBreak char then some ([], .plain, cursor)
      else if single && char == '\x27' then
        if cursor.second? == some '\x27' then
          (readRun single limit (cursor.skipMany 2)).map fun run => ('\x27' :: run.1, run.2)
        else some ([], .plain, cursor)
      else if !single && char == '"' then some ([], .plain, cursor)
      else if !single && char == '\\' then
        if cursor.second?.any isBreak then some ([], .escapedBreak, cursor.skip.skipBreak)
        else
          match readEscape cursor with
          | none => none
          | some (escaped, after) =>
            (readRun single limit after).map fun run => (escaped :: run.1, run.2)
      else (readRun single limit cursor.skip).map fun run => (char :: run.1, run.2)

/-- Reads text between quotes on top of a text, after the opening quote, in at most `limit` steps. -/
def readQuoted (single : Bool) : (limit : Nat) → List Char → Cursor → Option Reading
  | 0, _, _ => none
  | limit + 1, text, cursor =>
    if cursor.atDocumentMark || cursor.char? == none then none
    else
      match readRun single cursor.rest.length cursor with
      | none => none
      | some (run, ending, after) =>
        let text := text ++ run
        if after.isAt (if single then '\x27' else '"') then some ⟨text, after.skip, false⟩
        else
          let start : Gap := { broken := ending == .escapedBreak }
          match readGap 0 after.rest.length start after with
          | none => none
          | some (gap, after) => readQuoted single limit (text ++ gap.text) after

/-- What becomes of the breaks at the end of a block. -/
inductive Chomping where
  | strip
  | clip
  | keep
deriving DecidableEq, Repr, Inhabited

/-- The chomping that a mark asks for. -/
def chompingOf? : Option Char → Option Chomping
  | some '+' => some .keep
  | some '-' => some .strip
  | _ => none

/-- Reads the digit of an indentation mark, if there is one. Zero is refused. -/
def readIncrement (cursor : Cursor) : Option (Nat × Cursor) :=
  match cursor.char? with
  | some '0' => none
  | some char => if Text.isDigit char then some (Text.digitValue char, cursor.skip) else some (0, cursor)
  | none => some (0, cursor)

/-- Reads the marks of a block, in either order: its chomping and its indentation. -/
def readBlockMarks (cursor : Cursor) : Option (Chomping × Nat × Cursor) :=
  match chompingOf? cursor.char? with
  | some chomping => (readIncrement cursor.skip).map fun marks => (chomping, marks)
  | none =>
    (readIncrement cursor).map fun (increment, after) =>
      if increment = 0 then (.clip, 0, after)
      else
        match chompingOf? after.char? with
        | some chomping => (chomping, increment, after.skip)
        | none => (.clip, increment, after)

/-- Reads the indentation of empty lines and their breaks, in at most `limit` steps: how many breaks,
and the greatest column reached. Without an indentation, spaces are read as far as they go. -/
def readBlockBreaks (indent : Nat) : (limit : Nat) → (breaks widest : Nat) → Cursor →
    Option (Nat × Nat × Cursor)
  | 0, breaks, widest, cursor => some (breaks, widest, cursor)
  | limit + 1, breaks, widest, cursor =>
    let spaces := (cursor.rest.takeWhile (· == ' ')).length
    let count := if indent = 0 then spaces else min spaces (indent - cursor.column)
    let cursor := cursor.skipMany count
    let widest := max widest cursor.column
    if (indent = 0 ∨ cursor.column < indent) ∧ cursor.isAt '\t' then none
    else if cursor.char?.any isBreak then
      readBlockBreaks indent limit (breaks + 1) widest cursor.skipBreak
    else some (breaks, widest, cursor)

/-- What is known of a block while its lines are read. -/
structure BlockState where
  text : List Char := []
  /-- Whether a line was read, whose break is still to be written. -/
  pendingBreak : Bool := false
  emptyLines : Nat := 0
  afterBlank : Bool := false
deriving Repr, Inhabited

/-- The breaks before the next line of a block. Between two lines of a folded block that start with no
blank, a single break is a space. -/
def BlockState.join (state : BlockState) (literal nextBlank : Bool) : List Char :=
  let between :=
    if !literal && state.pendingBreak && !state.afterBlank && !nextBlank then
      if state.emptyLines = 0 then [' '] else []
    else if state.pendingBreak then ['\n']
    else []
  between ++ List.replicate state.emptyLines '\n'

/-- Reads the lines of a block on top of what is known, in at most `limit` lines. -/
def readBlockLines (literal : Bool) (indent : Nat) : (limit : Nat) → BlockState → Cursor →
    Option (BlockState × Cursor)
  | 0, state, cursor => some (state, cursor)
  | limit + 1, state, cursor =>
    match cursor.char? with
    | none => some (state, cursor)
    | some first =>
      if cursor.column ≠ indent then some (state, cursor)
      else
        let blank := isBlank first
        let (line, after) := cursor.takeWhile fun char => !isBreak char
        let text := state.text ++ state.join literal blank ++ line
        if after.char? == none then some ({ text, afterBlank := blank }, after)
        else
          match readBlockBreaks indent after.rest.length 0 0 after.skipBreak with
          | none => none
          | some (breaks, _, after) =>
            readBlockLines literal indent limit
              { text, pendingBreak := true, emptyLines := breaks, afterBlank := blank } after

/-- The text of a block, its last breaks chomped. -/
def BlockState.finish (state : BlockState) (chomping : Chomping) : List Char :=
  let last := if chomping ≠ .strip ∧ state.pendingBreak then ['\n'] else []
  let kept := if chomping = .keep then List.replicate state.emptyLines '\n' else []
  state.text ++ last ++ kept

/-- Reads a block, after its first mark, below the indentation `parent`. -/
def readBlock (literal : Bool) (parent : Int) (cursor : Cursor) : Option Reading := do
  let (chomping, increment, after) ← readBlockMarks cursor
  let after := (after.skipWhile isBlank).skipComment
  if !Cursor.endsLine after.char? then none
  else
    let after := after.skipBreak
    let wanted : Nat := if 0 < increment then (max parent 0).toNat + increment else 0
    let (breaks, widest, after) ← readBlockBreaks wanted (after.rest.length + 1) 0 0 after
    let indent := if wanted = 0 then max widest (max (parent + 1).toNat 1) else wanted
    let (state, after) ←
      readBlockLines literal indent (after.rest.length + 1) { emptyLines := breaks } after
    some ⟨state.finish chomping, after, false⟩

end NodeLookup.Yaml
