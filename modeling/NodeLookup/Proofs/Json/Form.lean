import NodeLookup.Proofs.Json.Document

/-!
# The form of a document

A form is what is left of a text when blanks and the spelling of strings are forgotten: members keep
their order, repeated keys stay, and numerals stand as they are written. The grammar here is that of any
JSON, and wider than the one for values: brackets nest to any depth, numerals may be out of range, and a
string may hold half of a surrogate pair, in which case it has no content. Every text of the grammar
opens with a character that tells its form, and every form is written by some text.
-/

namespace NodeLookup.Json

open Text (isDigit)

/-- What a text of JSON is, whatever its blanks and the spelling of its strings. -/
inductive Form where
  | null
  | boolean (value : Bool)
  | number (numeral : Numeral)
  /-- A string, with its content if that is text. -/
  | string (content : Option String)
  | list (items : List Form)
  /-- An object, with the contents of its keys. -/
  | object (members : List (Option String × Form))

/-! ## Strings -/

/-- What may stand in a string: a character or an escape, be it only half of a character. -/
inductive WritesGlyph : List Char → Prop where
  | plain {char : Char} (visible : isControl char = false) (notQuote : char ≠ '"')
      (notBackslash : char ≠ '\\') : WritesGlyph [char]
  | letter {letter char : Char} (stands : letterEscape? letter = some char) :
      WritesGlyph ['\\', letter]
  | unit {digits : List Char} {unit : Nat} (spelled : SpellsUnit digits unit) :
      WritesGlyph ('\\' :: 'u' :: digits)

/-- What stands between the quotes of a string. -/
inductive WritesGlyphs : List Char → Prop where
  | nil : WritesGlyphs []
  | cons {written text : List Char} (head : WritesGlyph written) (tail : WritesGlyphs text) :
      WritesGlyphs (written ++ text)

/-- What stands between the quotes of a string has a content, if it spells one. -/
structure WritesString (written : List Char) (content : Option String) : Prop where
  formed : WritesGlyphs written
  spells_iff : ∀ text : String, content = some text ↔ SpellsChars written text.toList

/-- A spelled character is one glyph or two. -/
theorem SpellsChar.writes_append {written text : List Char} {char : Char}
    (spells : SpellsChar written char) (more : WritesGlyphs text) : WritesGlyphs (written ++ text) := by
  cases spells with
  | plain visible notQuote notBackslash => exact .cons (.plain visible notQuote notBackslash) more
  | letter stands => exact .cons (.letter stands) more
  | unit spelled notLeading notTrailing => exact .cons (.unit spelled) more
  | @pair first second leading trailing firstSpelled secondSpelled isLeading isTrailing =>
    have halves := WritesGlyphs.cons (.unit firstSpelled) (.cons (.unit secondSpelled) more)
    simpa using halves

/-- What spells a text is made of glyphs. -/
theorem SpellsChars.writesGlyphs {written chars : List Char} (spells : SpellsChars written chars) :
    WritesGlyphs written := by
  induction spells with
  | nil => exact .nil
  | cons head tail inductionHypothesis => exact head.writes_append inductionHypothesis

/-- Nothing spells two texts. -/
theorem SpellsChars.unique {written : List Char} {first second : String}
    (one : SpellsChars written first.toList) (other : SpellsChars written second.toList) :
    first = second := by
  have readOne : string (written ++ '"' :: []) = .ok (first, []) :=
    string_eq_ok_iff.mpr ⟨written, one, rfl⟩
  have readOther : string (written ++ '"' :: []) = .ok (second, []) :=
    string_eq_ok_iff.mpr ⟨written, other, rfl⟩
  rw [readOne] at readOther
  cases readOther
  rfl

/-- What spells a text has it as its content. -/
theorem SpellsChars.writesString {written : List Char} {text : String}
    (spells : SpellsChars written text.toList) : WritesString written (some text) where
  formed := spells.writesGlyphs
  spells_iff other := by
    constructor
    · rintro ⟨⟩
      exact spells
    · intro spellsOther
      exact congrArg some (spells.unique spellsOther)

/-- Everything made of glyphs has a content or none. -/
theorem WritesGlyphs.exists_content {written : List Char} (formed : WritesGlyphs written) :
    ∃ content, WritesString written content := by
  by_cases spelled : ∃ text : String, SpellsChars written text.toList
  · obtain ⟨text, spells⟩ := spelled
    exact ⟨some text, spells.writesString⟩
  · refine ⟨none, formed, fun text => ?_⟩
    simpa using fun spells => spelled ⟨text, spells⟩

/-- A text can be written as it is, with escapes where they are needed. -/
theorem spellsChars_written (text : String) :
    SpellsChars (text.toList.flatMap writtenChar) text.toList := by
  obtain ⟨written, spells, same⟩ := string_eq_ok_iff.mp (string_written text [])
  rwa [List.append_cancel_right same]

/-- Half of a character is a string without a content. -/
theorem writesString_none : WritesString ['\\', 'u', 'd', '8', '0', '0'] none where
  formed := .cons (.unit ⟨'d', '8', '0', '0', rfl, rfl⟩) .nil
  spells_iff text := by
    refine iff_of_false (by simp) fun spells => ?_
    have read : string ['\\', 'u', 'd', '8', '0', '0', '"'] = .ok (text, []) :=
      string_eq_ok_iff.mpr ⟨_, spells, rfl⟩
    cases read

/-! ## The grammar -/

/-- The forms that hold no others. -/
inductive WritesScalar : List Char → Form → Prop where
  | null : WritesScalar ['n', 'u', 'l', 'l'] .null
  | boolean (value : Bool) : WritesScalar (writtenBool value) (.boolean value)
  | number (numeral : Numeral) : WritesScalar numeral.text (.number numeral)
  | string {written : List Char} {content : Option String} (writes : WritesString written content) :
      WritesScalar ('"' :: (written ++ ['"'])) (.string content)

/-- A member of an object: a string, a colon and a value. -/
inductive WritesMember (writes : List Char → Form → Prop) :
    List Char → Option String × Form → Prop where
  | mk {written after before text : List Char} {key : Option String} {form : Form}
      (writesKey : WritesString written key) (blankAfter : Blank after) (blankBefore : Blank before)
      (writesForm : writes text form) :
      WritesMember writes ('"' :: (written ++ '"' :: (after ++ ':' :: (before ++ text)))) (key, form)

/-- The forms that hold others. -/
inductive WritesNested (writes : List Char → Form → Prop) : List Char → Form → Prop where
  | list {text : List Char} {items : List Form} (parts : SpellsParts writes true text items) :
      WritesNested writes ('[' :: (text ++ [']'])) (.list items)
  | object {text : List Char} {members : List (Option String × Form)}
      (parts : SpellsParts (WritesMember writes) true text members) :
      WritesNested writes ('\x7b' :: (text ++ ['\x7d'])) (.object members)

/-- A text that writes a form, in which brackets are nested to at most the given number of levels. -/
def Writes : (levels : Nat) → List Char → Form → Prop
  | 0, text, form => WritesScalar text form
  | levels + 1, text, form => WritesScalar text form ∨ WritesNested (Writes levels) text form

/-- A text that is a form, up to blanks around it. -/
def IsText (text : List Char) (form : Form) : Prop :=
  ∃ before levels word after, Blank before ∧ Blank after ∧ Writes levels word form ∧
    text = before ++ (word ++ after)

/-! ## Levels -/

/-- A form that holds no others is written on any level. -/
theorem WritesScalar.writes {word : List Char} {form : Form} (scalar : WritesScalar word form)
    (levels : Nat) : Writes levels word form := by
  cases levels with
  | zero => exact scalar
  | succ levels => exact .inl scalar

/-- Parts are written as parts if more is written. -/
theorem SpellsParts.mono {α : Type} {narrow wide : List Char → α → Prop}
    (widens : ∀ {text value}, narrow text value → wide text value) {first : Bool} {body : List Char}
    {values : List α} (parts : SpellsParts narrow first body values) :
    SpellsParts wide first body values := by
  induction parts with
  | done blank => exact .done blank
  | part leads head tail inductionHypothesis => exact .part leads (widens head) inductionHypothesis

/-- So is a member. -/
theorem WritesMember.mono {narrow wide : List Char → Form → Prop}
    (widens : ∀ {text form}, narrow text form → wide text form) {text : List Char}
    {member : Option String × Form} (writes : WritesMember narrow text member) :
    WritesMember wide text member := by
  cases writes with
  | mk writesKey blankAfter blankBefore writesForm =>
    exact .mk writesKey blankAfter blankBefore (widens writesForm)

/-- What is written on some levels is written on one more. -/
theorem Writes.succ {levels : Nat} {word : List Char} {form : Form} (writes : Writes levels word form) :
    Writes (levels + 1) word form := by
  induction levels generalizing word form with
  | zero => exact .inl writes
  | succ levels inductionHypothesis =>
    rcases writes with scalar | nested
    · exact .inl scalar
    · refine .inr ?_
      cases nested with
      | list parts => exact .list (parts.mono inductionHypothesis)
      | object parts => exact .object (parts.mono fun member => member.mono inductionHypothesis)

/-- What is written on some levels is written on any greater number of them. -/
theorem Writes.mono {levels more : Nat} (fewer : levels ≤ more) {word : List Char} {form : Form}
    (writes : Writes levels word form) : Writes more word form := by
  induction fewer with
  | refl => exact writes
  | step _ inductionHypothesis => exact inductionHypothesis.succ

/-- An item stands in front of others, on as many levels as both need. -/
theorem Writes.part {one other : Nat} {first : Bool} {lead word body : List Char} {form : Form}
    {items : List Form} (writes : Writes one word form) (leads : Leads first lead)
    (parts : SpellsParts (Writes other) false body items) :
    SpellsParts (Writes (max one other)) first (lead ++ (word ++ body)) (form :: items) :=
  .part leads (writes.mono (Nat.le_max_left ..)) (parts.mono fun writes => writes.mono (Nat.le_max_right ..))

/-- So does a member. -/
theorem WritesMember.part {one other : Nat} {first : Bool} {lead text body : List Char}
    {member : Option String × Form} {members : List (Option String × Form)}
    (writes : WritesMember (Writes one) text member) (leads : Leads first lead)
    (parts : SpellsParts (WritesMember (Writes other)) false body members) :
    SpellsParts (WritesMember (Writes (max one other))) first (lead ++ (text ++ body))
      (member :: members) :=
  .part leads (writes.mono fun writes => writes.mono (Nat.le_max_left ..))
    (parts.mono fun member => member.mono fun writes => writes.mono (Nat.le_max_right ..))

/-! ## Opening characters -/

/-- The characters that a form may open with. -/
def Form.Opens : Form → Char → Prop
  | .null, char => char = 'n'
  | .boolean value, char => char = if value then 't' else 'f'
  | .number _, char => char = '-' ∨ isDigit char = true
  | .string _, char => char = '"'
  | .list _, char => char = '['
  | .object _, char => char = '\x7b'

/-- What opens a form is no blank, and closes no list. -/
theorem Form.Opens.visible {form : Form} {char : Char} (opens : form.Opens char) :
    isBlank char = false ∧ char ≠ ']' := by
  cases form with
  | boolean value => cases value <;> cases opens <;> decide
  | number numeral =>
    rcases opens with rfl | isOne
    · decide
    · refine ⟨isBlank_of_isDigit isOne, ?_⟩
      rintro rfl
      cases isOne
  | _ => cases opens; decide

/-- A numeral opens with its sign or a digit. -/
theorem Numeral.opens (numeral : Numeral) :
    ∃ head tail, numeral.text = head :: tail ∧ (Form.number numeral).Opens head := by
  cases sign : numeral.below with
  | true => exact ⟨'-', numeral.magnitude, by simp [Numeral.text, sign], .inl rfl⟩
  | false =>
    exact ⟨numeral.whole.head, _, by rw [Numeral.text, sign]; rfl, .inr numeral.whole.isDigit_head⟩

/-- A written form opens with one of its characters. -/
theorem Writes.opens {levels : Nat} {word : List Char} {form : Form}
    (writes : Writes levels word form) : ∃ head tail, word = head :: tail ∧ form.Opens head := by
  have scalar : WritesScalar word form → ∃ head tail, word = head :: tail ∧ form.Opens head := by
    intro scalar
    cases scalar with
    | null => exact ⟨_, _, rfl, rfl⟩
    | boolean value => cases value <;> exact ⟨_, _, rfl, rfl⟩
    | number numeral => exact numeral.opens
    | string writes => exact ⟨_, _, rfl, rfl⟩
  cases levels with
  | zero => exact scalar writes
  | succ levels =>
    rcases writes with writes | nested
    · exact scalar writes
    · cases nested <;> exact ⟨_, _, rfl, rfl⟩

/-- A written form may stand as an item. -/
theorem Writes.opensItem {levels : Nat} {word : List Char} {form : Form}
    (writes : Writes levels word form) : OpensItem word := by
  obtain ⟨head, tail, rfl, opens⟩ := writes.opens
  exact ⟨head, tail, rfl, opens.visible⟩

/-- A written form is not empty. -/
theorem Writes.length_pos {levels : Nat} {word : List Char} {form : Form}
    (writes : Writes levels word form) : 0 < word.length := writes.opensItem.length_pos

/-! ## Texts of forms -/

/-- A key can always be written. -/
theorem exists_writesString (content : Option String) : ∃ written, WritesString written content := by
  cases content with
  | none => exact ⟨_, writesString_none⟩
  | some text => exact ⟨_, (spellsChars_written text).writesString⟩

/-- What stands between parts, at the least. -/
theorem leads_lead (first : Bool) : Leads first (lead first) := by
  cases first with
  | true => exact .first blank_nil
  | false => exact .later blank_nil blank_nil

mutual

/-- Every form is written by some text. -/
theorem Form.exists_writes : (form : Form) → ∃ levels word, Writes levels word form
  | .null => ⟨0, _, .null⟩
  | .boolean value => ⟨0, _, .boolean value⟩
  | .number numeral => ⟨0, _, .number numeral⟩
  | .string content =>
    have ⟨_, writes⟩ := exists_writesString content
    ⟨0, _, .string writes⟩
  | .list items =>
    have ⟨levels, _, parts⟩ := exists_writes_items items true
    ⟨levels + 1, _, .inr (.list parts)⟩
  | .object members =>
    have ⟨levels, _, parts⟩ := exists_writes_members members true
    ⟨levels + 1, _, .inr (.object parts)⟩

/-- Items are written as parts. -/
theorem Form.exists_writes_items : (items : List Form) → (first : Bool) →
    ∃ levels body, SpellsParts (Writes levels) first body items
  | [], _ => ⟨0, _, .done blank_nil⟩
  | item :: items, first =>
    have ⟨one, _, writes⟩ := item.exists_writes
    have ⟨other, _, parts⟩ := exists_writes_items items false
    ⟨max one other, _, writes.part (leads_lead first) parts⟩

/-- Members are written as parts. -/
theorem Form.exists_writes_members : (members : List (Option String × Form)) → (first : Bool) →
    ∃ levels body, SpellsParts (WritesMember (Writes levels)) first body members
  | [], _ => ⟨0, _, .done blank_nil⟩
  | (key, form) :: members, first =>
    have ⟨_, writesKey⟩ := exists_writesString key
    have ⟨one, _, writes⟩ := form.exists_writes
    have ⟨other, _, parts⟩ := exists_writes_members members false
    have member := WritesMember.mk writesKey blank_nil blank_nil writes
    ⟨max one other, _, member.part (leads_lead first) parts⟩

end

/-- So every form has a text. -/
theorem Form.exists_isText (form : Form) : ∃ body : String, IsText body.toList form := by
  obtain ⟨levels, word, writes⟩ := form.exists_writes
  exact ⟨String.ofList word, [], levels, word, [], blank_nil, blank_nil, writes, by simp⟩

end NodeLookup.Json
