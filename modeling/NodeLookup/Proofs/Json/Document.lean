import NodeLookup.Json.Tree
import NodeLookup.Proofs.Json.Numeral
import NodeLookup.Proofs.Json.Recovery
import NodeLookup.Proofs.Json.Spelling

/-!
# What a document is

The language of documents as a grammar: a text spells a value, up to blanks around it, in which every
numeral is in range, every surrogate is paired, and brackets nest only so deep. The reader accepts
this language and no other text, and finds the value that is spelled; `decode_eq_ok_iff` puts the two
halves together. That whatever is read is spelled is an induction on the steps of the reader, and that
whatever is spelled is read is one on the levels of the grammar.
-/

namespace NodeLookup.Json

open Text (isDigit)

/-! ## The grammar -/

/-- A text of blanks. -/
def Blank (text : List Char) : Prop := ∀ char ∈ text, isBlank char = true

/-- What stands in front of a part of a list or an object: blanks, and among them a comma unless the
part is the first. -/
inductive Leads : (first : Bool) → List Char → Prop where
  | first {before : List Char} (blank : Blank before) : Leads true before
  | later {after before : List Char} (blankAfter : Blank after) (blankBefore : Blank before) :
      Leads false (after ++ ',' :: before)

/-- The parts of a list or an object up to its closing bracket, each behind its lead. -/
inductive SpellsParts {α : Type} (spells : List Char → α → Prop) :
    (first : Bool) → List Char → List α → Prop where
  | done {first : Bool} {after : List Char} (blank : Blank after) : SpellsParts spells first after []
  | part {first : Bool} {lead text more : List Char} {value : α} {values : List α}
      (leads : Leads first lead) (head : spells text value)
      (tail : SpellsParts spells false more values) :
      SpellsParts spells first (lead ++ (text ++ more)) (value :: values)

/-- A member of an object: a string, a colon and a value. -/
inductive SpellsMember (spells : List Char → Value → Prop) : List Char → String × Value → Prop where
  | mk {written after before text : List Char} {key : String} {value : Value}
      (spelled : SpellsChars written key.toList) (blankAfter : Blank after)
      (blankBefore : Blank before) (spellsValue : spells text value) :
      SpellsMember spells ('"' :: (written ++ '"' :: (after ++ ':' :: (before ++ text)))) (key, value)

/-- The values that hold no others. -/
inductive SpellsScalar : List Char → Value → Prop where
  | null : SpellsScalar ['n', 'u', 'l', 'l'] .null
  | boolean (value : Bool) : SpellsScalar (writtenBool value) (.boolean value)
  | number {numeral : Numeral} {number : Number} (inRange : numeral.number? = some number) :
      SpellsScalar numeral.text (.number number)
  | string {written : List Char} {text : String} (spelled : SpellsChars written text.toList) :
      SpellsScalar ('"' :: (written ++ ['"'])) (.string text)

/-- The values that hold others. -/
inductive SpellsNested (spells : List Char → Value → Prop) : List Char → Value → Prop where
  | list {text : List Char} {values : List Value} (parts : SpellsParts spells true text values) :
      SpellsNested spells ('[' :: (text ++ [']'])) (.list values)
  | object {text : List Char} {members : List (String × Value)}
      (parts : SpellsParts (SpellsMember spells) true text members) :
      SpellsNested spells ('\x7b' :: (text ++ ['\x7d'])) (.object members)

/-- A text that spells a value, in which brackets are nested to at most the given number of levels. -/
def Spells : (levels : Nat) → List Char → Value → Prop
  | 0, text, value => SpellsScalar text value
  | levels + 1, text, value => SpellsScalar text value ∨ SpellsNested (Spells levels) text value

/-- A text that is a value, up to blanks around it. -/
def Document (text : List Char) (value : Value) : Prop :=
  ∃ before word after, Blank before ∧ Blank after ∧ Spells (depthLimit - 1) word value ∧
    text = before ++ (word ++ after)

/-! ## Blanks -/

/-- Nothing is blank. -/
theorem blank_nil : Blank [] := by
  intro char member
  cases member

/-- Blanks behind blanks are blanks. -/
theorem Blank.append {first second : List Char} (blank : Blank first) (more : Blank second) :
    Blank (first ++ second) := by
  intro char member
  rcases List.mem_append.mp member with left | right
  · exact blank char left
  · exact more char right

/-- Blanks are skipped up to a character that is none. -/
theorem skipBlank_append {before : List Char} (blank : Blank before) (text : List Char) :
    skipBlank (before ++ text) = skipBlank text := by
  rw [skipBlank, List.dropWhile_append_of_pos blank, skipBlank]

/-- What is skipped is blank. -/
theorem exists_blank (text : List Char) : ∃ before, Blank before ∧ text = before ++ skipBlank text :=
  ⟨text.takeWhile isBlank, fun _ => List.mem_takeWhile_imp,
    List.takeWhile_append_dropWhile.symm⟩

/-- What is left behind blanks starts with a character that is none. -/
theorem skipBlank_eq_cons_iff {text rest : List Char} {char : Char} :
    skipBlank text = char :: rest ↔
      isBlank char = false ∧ ∃ before, Blank before ∧ text = before ++ char :: rest := by
  constructor
  · intro skipped
    refine ⟨?_, ?_⟩
    · have stopped := List.head?_dropWhile_not isBlank text
      rw [← skipBlank, skipped] at stopped
      simpa using stopped
    · obtain ⟨before, blank, split⟩ := exists_blank text
      exact ⟨before, blank, skipped ▸ split⟩
  · rintro ⟨notBlank, before, blank, rfl⟩
    rw [skipBlank_append blank, skipBlank_cons notBlank]

/-- Nothing is left exactly of blanks. -/
theorem skipBlank_eq_nil_iff {text : List Char} : skipBlank text = [] ↔ Blank text := by
  simp [skipBlank, List.dropWhile_eq_nil_iff, Blank]

/-- More blanks lead to a part as well. -/
theorem Leads.append {first : Bool} {lead before : List Char} (leads : Leads first lead)
    (blank : Blank before) : Leads first (lead ++ before) := by
  cases leads with
  | first blankBefore => exact .first (blankBefore.append blank)
  | later blankAfter blankBefore =>
    rw [List.append_assoc, List.cons_append]
    exact .later blankAfter (blankBefore.append blank)

/-! ## Words -/

/-- The rest of a literal is passed over exactly if it is there. -/
theorem word_eq_ok_iff {wanted text rest : List Char} :
    word wanted text = .ok rest ↔ text = wanted ++ rest := by
  induction wanted generalizing text with
  | nil => simp [word]
  | cons char wanted inductionHypothesis =>
    cases text with
    | nil => simp [word]
    | cons next text =>
      rw [word]
      split
      · next same => simp [inductionHypothesis, same]
      · next different => simp [different]

/-! ## Steps -/

section Steps

variable {first : Bool} {text rest : List Char}

/-- A list ends exactly where its bracket closes. -/
theorem nextItem_eq_inr_iff :
    nextItem first text = .ok (.inr rest) ↔ ∃ after, Blank after ∧ text = after ++ ']' :: rest := by
  constructor
  · intro ended
    unfold nextItem at ended
    split at ended
    · cases ended
    · next skipped =>
      cases ended
      exact (skipBlank_eq_cons_iff.mp skipped).2
    · repeat' split at ended
      all_goals cases ended
  · rintro ⟨after, blank, rfl⟩
    simp [nextItem, skipBlank_append blank, isBlank]

/-- A list goes on exactly with something that opens an item, behind its lead. -/
theorem nextItem_eq_inl_iff :
    nextItem first text = .ok (.inl rest) ↔
      OpensItem rest ∧ ∃ lead, Leads first lead ∧ text = lead ++ rest := by
  constructor
  · intro goesOn
    unfold nextItem at goesOn
    split at goesOn
    · cases goesOn
    · cases goesOn
    · next char more notClosing skipped =>
      obtain ⟨notBlank, before, blank, rfl⟩ := skipBlank_eq_cons_iff.mp skipped
      cases first with
      | true =>
        cases goesOn
        exact ⟨⟨char, more, rfl, notBlank, notClosing⟩, before, .first blank, rfl⟩
      | false =>
        simp only [Bool.false_eq_true, if_false] at goesOn
        split at goesOn
        · next comma =>
          subst comma
          split at goesOn
          · cases goesOn
          · cases goesOn
          · next notEnd notClosing =>
            cases goesOn
            obtain ⟨head, tail, opens⟩ := List.exists_cons_of_ne_nil notEnd
            obtain ⟨notBlank, second, blankSecond, rfl⟩ := skipBlank_eq_cons_iff.mp opens
            rw [opens]
            refine ⟨⟨head, tail, rfl, notBlank, ?_⟩, before ++ ',' :: second,
              .later blank blankSecond, by simp⟩
            rintro rfl
            exact notClosing tail opens
        · cases goesOn
  · rintro ⟨⟨head, tail, rfl, notBlank, notClosing⟩, lead, leads, rfl⟩
    cases leads with
    | first blank => simp [nextItem, skipBlank_append blank, notBlank]
    | later blankAfter blankBefore =>
      have comma : isBlank ',' = false := by decide
      simp [nextItem, skipBlank_append blankAfter, skipBlank_append blankBefore, notBlank, comma,
        notClosing]

/-- An object ends exactly where its brace closes. -/
theorem nextMember_eq_inr_iff :
    nextMember first text = .ok (.inr rest) ↔
      ∃ after, Blank after ∧ text = after ++ '\x7d' :: rest := by
  constructor
  · intro ended
    unfold nextMember at ended
    split at ended
    · cases ended
    · next skipped =>
      cases ended
      exact (skipBlank_eq_cons_iff.mp skipped).2
    · repeat' split at ended
      all_goals cases ended
  · rintro ⟨after, blank, rfl⟩
    simp [nextMember, skipBlank_append blank, isBlank]

/-- An object goes on exactly with the quote of a key, behind its lead. -/
theorem nextMember_eq_inl_iff :
    nextMember first text = .ok (.inl rest) ↔
      ∃ lead, Leads first lead ∧ text = lead ++ '"' :: rest := by
  constructor
  · intro goesOn
    unfold nextMember at goesOn
    split at goesOn
    · cases goesOn
    · cases goesOn
    · next char more notClosing skipped =>
      obtain ⟨notBlank, before, blank, rfl⟩ := skipBlank_eq_cons_iff.mp skipped
      cases first with
      | true =>
        simp only [if_true] at goesOn
        split at goesOn
        · next quote =>
          cases goesOn
          exact ⟨before, .first blank, by rw [quote]⟩
        · cases goesOn
      | false =>
        simp only [Bool.false_eq_true, if_false] at goesOn
        split at goesOn
        · next comma =>
          subst comma
          split at goesOn
          · cases goesOn
          · next opens =>
            cases goesOn
            obtain ⟨-, second, blankSecond, rfl⟩ := skipBlank_eq_cons_iff.mp opens
            exact ⟨before ++ ',' :: second, .later blank blankSecond, by simp⟩
          · cases goesOn
          · cases goesOn
        · cases goesOn
  · rintro ⟨lead, leads, rfl⟩
    cases leads with
    | first blank => simp [nextMember, skipBlank_append blank, isBlank]
    | later blankAfter blankBefore =>
      simp [nextMember, skipBlank_append blankAfter, skipBlank_append blankBefore, isBlank]

/-- A colon is passed over exactly if it is there. -/
theorem colon_eq_ok_iff :
    colon text = .ok rest ↔ ∃ after, Blank after ∧ text = after ++ ':' :: rest := by
  constructor
  · intro accepted
    unfold colon at accepted
    split at accepted
    · cases accepted
    · next skipped =>
      cases accepted
      exact (skipBlank_eq_cons_iff.mp skipped).2
    · cases accepted
  · rintro ⟨after, blank, rfl⟩
    simp [colon, skipBlank_append blank, isBlank]

end Steps

/-! ## What is read -/

/-- A value that holds no others is spelled on any level. -/
theorem spells_of_scalar {levels : Nat} {word : List Char} {value : Value}
    (scalar : SpellsScalar word value) : Spells levels word value := by
  cases levels with
  | zero => exact scalar
  | succ levels => exact .inl scalar

/-- What is read in a number of steps is spelled, be it a value, or the parts of a list or an object
up to its closing bracket. -/
structure ReadIsSpelled (limit : Nat) : Prop where
  value : ∀ {levels text value rest}, readValue limit (levels + 1) text = .ok (value, rest) →
    ∃ before word, Blank before ∧ Spells levels word value ∧ text = before ++ (word ++ rest)
  items : ∀ {levels first text values rest},
    readItems limit (levels + 1) first text = .ok (values, rest) →
    ∃ body, SpellsParts (Spells levels) first body values ∧ text = body ++ ']' :: rest
  members : ∀ {levels first text members rest},
    readMembers limit (levels + 1) first text = .ok (members, rest) →
    ∃ body, SpellsParts (SpellsMember (Spells levels)) first body members ∧
      text = body ++ '\x7d' :: rest

/-- A literal that is read is spelled. -/
theorem spells_of_literal {wanted text rest : List Char} {literal value : Value}
    (accepted : (do .ok (literal, ← word wanted text)) = .ok (value, rest)) :
    value = literal ∧ text = wanted ++ rest := by
  simp only [bind_eq_ok_iff, word_eq_ok_iff] at accepted
  obtain ⟨after, rfl, same⟩ := accepted
  cases same
  exact ⟨rfl, rfl⟩

/-- A numeral that is read is spelled. -/
theorem spells_of_numeral {below : Bool} {levels : Nat} {text rest : List Char} {value : Value}
    (accepted : (do
      let (number, rest) ← numeral below text
      .ok (Value.number number, rest)) = .ok (value, rest)) :
    ∃ word, Spells levels word value ∧
      (if below then '-' :: text else text) = word ++ rest := by
  simp only [bind_eq_ok_iff, Prod.exists] at accepted
  obtain ⟨number, after, read, same⟩ := accepted
  cases same
  obtain ⟨numeral, rfl, rfl, -, inRange⟩ := numeral_eq_ok_iff.mp read
  refine ⟨numeral.text, spells_of_scalar (.number inRange), ?_⟩
  unfold Numeral.text
  split <;> simp

variable {limit : Nat}

/-- A value that is read is spelled if the parts in it are. -/
theorem ReadIsSpelled.value_succ (inner : ReadIsSpelled limit) {levels : Nat} {text rest : List Char}
    {value : Value} (accepted : readValue (limit + 1) (levels + 1) text = .ok (value, rest)) :
    ∃ before word, Blank before ∧ Spells levels word value ∧ text = before ++ (word ++ rest) := by
  unfold readValue at accepted
  have prefixed : ∀ {char more word}, skipBlank text = char :: more → Spells levels word value →
      char :: more = word ++ rest →
      ∃ before word, Blank before ∧ Spells levels word value ∧ text = before ++ (word ++ rest) := by
    intro char more word skipped spells split
    obtain ⟨-, before, blank, parts⟩ := skipBlank_eq_cons_iff.mp skipped
    exact ⟨before, word, blank, spells, by rw [parts, split]⟩
  split at accepted
  · cases accepted
  · next skipped =>
    obtain ⟨rfl, rfl⟩ := spells_of_literal accepted
    exact prefixed skipped (spells_of_scalar .null) rfl
  · next skipped =>
    obtain ⟨rfl, rfl⟩ := spells_of_literal accepted
    exact prefixed skipped (spells_of_scalar (.boolean true)) rfl
  · next skipped =>
    obtain ⟨rfl, rfl⟩ := spells_of_literal accepted
    exact prefixed skipped (spells_of_scalar (.boolean false)) rfl
  · next skipped =>
    simp only [bind_eq_ok_iff, Prod.exists, string_eq_ok_iff] at accepted
    obtain ⟨text, after, ⟨written, spelled, rfl⟩, same⟩ := accepted
    cases same
    exact prefixed skipped (spells_of_scalar (.string spelled)) (by simp)
  · next skipped =>
    obtain ⟨word, spells, parts⟩ := spells_of_numeral accepted
    exact prefixed skipped spells parts
  · next skipped =>
    cases levels with
    | zero => cases accepted
    | succ levels =>
      rw [if_neg (by omega)] at accepted
      simp only [Nat.add_sub_cancel, bind_eq_ok_iff, Prod.exists] at accepted
      obtain ⟨values, after, read, same⟩ := accepted
      cases same
      obtain ⟨body, parts, rfl⟩ := inner.items read
      exact prefixed skipped (.inr (.list parts)) (by simp)
  · next skipped =>
    cases levels with
    | zero => cases accepted
    | succ levels =>
      rw [if_neg (by omega)] at accepted
      simp only [Nat.add_sub_cancel, bind_eq_ok_iff, Prod.exists] at accepted
      obtain ⟨members, after, read, same⟩ := accepted
      cases same
      obtain ⟨body, parts, rfl⟩ := inner.members read
      exact prefixed skipped (.inr (.object parts)) (by simp)
  · next skipped =>
    split at accepted
    · obtain ⟨word, spells, parts⟩ := spells_of_numeral accepted
      exact prefixed skipped spells parts
    · cases accepted

/-- List items that are read are spelled if the values in them are. -/
theorem ReadIsSpelled.items_succ (inner : ReadIsSpelled limit) {levels : Nat} {first : Bool}
    {text rest : List Char} {values : List Value}
    (accepted : readItems (limit + 1) (levels + 1) first text = .ok (values, rest)) :
    ∃ body, SpellsParts (Spells levels) first body values ∧ text = body ++ ']' :: rest := by
  simp only [readItems, bind_eq_ok_iff] at accepted
  obtain ⟨next, step, accepted⟩ := accepted
  cases next with
  | inr after =>
    cases accepted
    obtain ⟨blanks, blank, rfl⟩ := nextItem_eq_inr_iff.mp step
    exact ⟨blanks, .done blank, rfl⟩
  | inl item =>
    simp only [bind_eq_ok_iff, Prod.exists] at accepted
    obtain ⟨value, middle, readValue, values, after, readMore, same⟩ := accepted
    cases same
    obtain ⟨-, lead, leads, rfl⟩ := nextItem_eq_inl_iff.mp step
    obtain ⟨before, word, blank, spells, rfl⟩ := inner.value readValue
    obtain ⟨body, parts, rfl⟩ := inner.items readMore
    exact ⟨_, .part (leads.append blank) spells parts, by simp⟩

/-- Members that are read are spelled if the values in them are. -/
theorem ReadIsSpelled.members_succ (inner : ReadIsSpelled limit) {levels : Nat} {first : Bool}
    {text rest : List Char} {members : List (String × Value)}
    (accepted : readMembers (limit + 1) (levels + 1) first text = .ok (members, rest)) :
    ∃ body, SpellsParts (SpellsMember (Spells levels)) first body members ∧
      text = body ++ '\x7d' :: rest := by
  simp only [readMembers, bind_eq_ok_iff] at accepted
  obtain ⟨next, step, accepted⟩ := accepted
  cases next with
  | inr after =>
    cases accepted
    obtain ⟨blanks, blank, rfl⟩ := nextMember_eq_inr_iff.mp step
    exact ⟨blanks, .done blank, rfl⟩
  | inl item =>
    simp only [bind_eq_ok_iff, Prod.exists, string_eq_ok_iff, colon_eq_ok_iff] at accepted
    obtain ⟨key, _, ⟨written, spelled, rfl⟩, _, ⟨between, blankBetween, rfl⟩, accepted⟩ := accepted
    obtain ⟨value, middle, readValue, members, after, readMore, same⟩ := accepted
    cases same
    obtain ⟨lead, leads, rfl⟩ := nextMember_eq_inl_iff.mp step
    obtain ⟨before, word, blank, spells, rfl⟩ := inner.value readValue
    obtain ⟨body, parts, rfl⟩ := inner.members readMore
    exact ⟨_, .part leads (.mk spelled blankBetween blank spells) parts, by simp⟩

/-- Whatever is read is spelled. -/
theorem readIsSpelled (limit : Nat) : ReadIsSpelled limit := by
  induction limit with
  | zero => constructor <;> intros <;> contradiction
  | succ limit inner => exact ⟨inner.value_succ, inner.items_succ, inner.members_succ⟩

/-! ## What is spelled -/

/-- What may stand behind a value: a blank, a comma, or the end of a list or an object. -/
def Delimits (rest : List Char) : Prop :=
  ∀ char ∈ rest.head?, isBlank char = true ∨ char ∈ [',', ']', '\x7d']

/-- Blanks are no obstacle. -/
theorem Blank.delimits_append {before rest : List Char} (blank : Blank before)
    (delimits : Delimits rest) : Delimits (before ++ rest) := by
  cases before with
  | nil => exact delimits
  | cons char before =>
    rintro _ ⟨⟩
    exact .inl (blank char List.mem_cons_self)

/-- What may stand behind a value does not go on with a numeral. -/
theorem Delimits.ends {rest : List Char} (delimits : Delimits rest) (numeral : Numeral) :
    numeral.Ends rest := by
  have foreign : ∀ char ∈ rest.head?,
      isDigit char = false ∧ char ≠ 'e' ∧ char ≠ 'E' ∧ char ≠ '.' := by
    intro char first
    have delimiter := delimits char first
    simp only [isBlank, Bool.or_eq_true, beq_iff_eq, List.mem_cons, List.not_mem_nil,
      or_false] at delimiter
    rcases delimiter with (((rfl | rfl) | rfl) | rfl) | rfl | rfl | rfl <;> decide
  exact ⟨⟨fun char first => (foreign char first).1,
    fun _ char first => ⟨(foreign char first).2.1, (foreign char first).2.2.1⟩⟩,
    fun _ _ char first => (foreign char first).2.2.2⟩

variable {depth : Nat} {rest : List Char}

/-- Blanks in front of a value are skipped. -/
theorem readValue_blank {before : List Char} (blank : Blank before) (text : List Char) :
    readValue (limit + 1) depth (before ++ text) = readValue (limit + 1) depth text := by
  simp only [readValue, skipBlank_append blank]

/-- A digit is no blank. -/
theorem isBlank_of_isDigit {digit : Char} (isOne : isDigit digit = true) : isBlank digit = false := by
  rw [← Bool.not_eq_true]
  intro blank
  simp only [isBlank, Bool.or_eq_true, beq_iff_eq] at blank
  rcases blank with ((rfl | rfl) | rfl) | rfl <;> cases isOne

/-- A value that starts with a digit is a numeral. -/
theorem readValue_digit {digit : Char} {more : List Char} {number : Number}
    (isOne : isDigit digit = true) (read : numeral false (digit :: more) = .ok (number, rest)) :
    readValue (limit + 1) depth (digit :: more) = .ok (.number number, rest) := by
  unfold readValue
  rw [skipBlank_cons (isBlank_of_isDigit isOne)]
  split
  case h_9 same =>
    cases same
    simp [isOne, read, bind, Except.bind]
  all_goals next same => cases same <;> cases isOne

/-- A value that holds no others is read as it is spelled. -/
theorem readValue_scalar {word : List Char} {value : Value} (scalar : SpellsScalar word value)
    (delimits : Delimits rest) : readValue (limit + 1) depth (word ++ rest) = .ok (value, rest) := by
  cases scalar with
  | null => simp [readValue, isBlank, word, bind, Except.bind]
  | boolean value => cases value <;> simp [readValue, writtenBool, isBlank, word, bind, Except.bind]
  | @number numeral number inRange =>
    have read := numeral_eq_ok_iff.mpr ⟨numeral, rfl, rfl, delimits.ends numeral, inRange⟩
    cases sign : numeral.below with
    | true =>
      rw [sign] at read
      simp [Numeral.text, sign, readValue, isBlank, read, bind, Except.bind]
    | false =>
      have unsigned : numeral.text = numeral.magnitude := by simp [Numeral.text, sign]
      rw [sign] at read
      rw [unsigned]
      exact readValue_digit numeral.whole.isDigit_head read
  | @string written text spelled =>
    have read : string (written ++ '"' :: rest) = .ok (text, rest) :=
      string_eq_ok_iff.mpr ⟨written, spelled, rfl⟩
    simp [readValue, isBlank, read, bind, Except.bind]

/-- A spelled value is long enough to open an item of a list. -/
theorem opensItem_of_spells {levels : Nat} {word : List Char} {value : Value}
    (spells : Spells levels word value) : OpensItem word := by
  have scalar : SpellsScalar word value → OpensItem word := by
    intro scalar
    cases scalar with
    | null => exact ⟨'n', _, rfl, by decide, by decide⟩
    | boolean value => cases value <;> exact ⟨_, _, rfl, by decide, by decide⟩
    | @number numeral number inRange =>
      cases sign : numeral.below with
      | true => exact ⟨'-', numeral.magnitude, by simp [Numeral.text, sign], by decide, by decide⟩
      | false =>
        have isOne := numeral.whole.isDigit_head
        refine ⟨numeral.whole.head, _, by rw [Numeral.text, sign]; rfl, isBlank_of_isDigit isOne, ?_⟩
        intro same
        rw [same] at isOne
        cases isOne
    | string spelled => exact ⟨'"', _, rfl, by decide, by decide⟩
  match levels with
  | 0 => exact scalar spells
  | levels + 1 =>
    rcases spells with spells | nested
    · exact scalar spells
    · cases nested with
      | list parts => exact ⟨'[', _, rfl, by decide, by decide⟩
      | object parts => exact ⟨'\x7b', _, rfl, by decide, by decide⟩

/-- What opens an item of a list is not empty. -/
theorem OpensItem.length_pos {text : List Char} (opens : OpensItem text) : 0 < text.length := by
  obtain ⟨head, tail, rfl, -, -⟩ := opens
  simp

/-- What is left of the parts of a list or an object does not go on with the part in front. -/
theorem SpellsParts.delimits {α : Type} {spells : List Char → α → Prop} {body : List Char}
    {values : List α} (parts : SpellsParts spells false body values) {closing : Char}
    (closes : closing ∈ [']', '\x7d']) (rest : List Char) : Delimits (body ++ closing :: rest) := by
  cases parts with
  | done blank =>
    refine blank.delimits_append ?_
    rintro _ ⟨⟩
    exact .inr (List.mem_cons_of_mem _ closes)
  | part leads head tail =>
    cases leads with
    | later blankAfter blankBefore =>
      rw [List.append_assoc, List.append_assoc]
      refine blankAfter.delimits_append ?_
      rintro _ ⟨⟩
      exact .inr List.mem_cons_self

/-- A text that spells a value is read as that value, behind blanks and in front of what may stand
behind it. -/
def IsRead (levels : Nat) (word : List Char) (value : Value) : Prop :=
  ∀ {limit before rest}, 2 * word.length ≤ limit → Blank before → Delimits rest →
    readValue limit (levels + 1) (before ++ (word ++ rest)) = .ok (value, rest)

section Parts

variable {levels : Nat} (reads : ∀ {word value}, Spells levels word value → IsRead levels word value)
  {first : Bool} {body : List Char}

include reads

/-- List items are read as they are spelled if the values in them are. -/
theorem readItems_of_spells {values : List Value}
    (parts : SpellsParts (Spells levels) first body values) {limit : Nat}
    (enough : 2 * body.length < limit) (rest : List Char) :
    readItems limit (levels + 1) first (body ++ ']' :: rest) = .ok (values, rest) := by
  induction parts generalizing limit with
  | @done first after blank =>
    obtain ⟨limit, rfl⟩ := Nat.exists_eq_add_one_of_ne_zero (Nat.ne_zero_of_lt enough)
    have step : nextItem first (after ++ ']' :: rest) = .ok (.inr rest) :=
      nextItem_eq_inr_iff.mpr ⟨after, blank, rfl⟩
    simp [readItems, step, bind, Except.bind]
  | @part first lead word more value values leads head tail inductionHypothesis =>
    obtain ⟨limit, rfl⟩ := Nat.exists_eq_add_one_of_ne_zero (Nat.ne_zero_of_lt enough)
    simp only [List.length_append] at enough
    have opens := opensItem_of_spells head
    have long := opens.length_pos
    have step : nextItem first (lead ++ (word ++ (more ++ ']' :: rest))) =
        .ok (.inl (word ++ (more ++ ']' :: rest))) :=
      nextItem_eq_inl_iff.mpr ⟨opens.append _, lead, leads, rfl⟩
    have read := reads head (by omega : 2 * word.length ≤ limit) blank_nil
      (tail.delimits (by decide : ']' ∈ [']', '\x7d']) rest)
    have readMore := inductionHypothesis (by omega : 2 * more.length < limit)
    rw [List.nil_append] at read
    simp only [List.append_assoc, readItems, step, read, readMore, bind, Except.bind]

/-- Members are read as they are spelled if the values in them are. -/
theorem readMembers_of_spells {members : List (String × Value)}
    (parts : SpellsParts (SpellsMember (Spells levels)) first body members) {limit : Nat}
    (enough : 2 * body.length < limit) (rest : List Char) :
    readMembers limit (levels + 1) first (body ++ '\x7d' :: rest) = .ok (members, rest) := by
  induction parts generalizing limit with
  | @done first after blank =>
    obtain ⟨limit, rfl⟩ := Nat.exists_eq_add_one_of_ne_zero (Nat.ne_zero_of_lt enough)
    have step : nextMember first (after ++ '\x7d' :: rest) = .ok (.inr rest) :=
      nextMember_eq_inr_iff.mpr ⟨after, blank, rfl⟩
    simp [readMembers, step, bind, Except.bind]
  | @part first lead _ more _ members leads head tail inductionHypothesis =>
    obtain ⟨limit, rfl⟩ := Nat.exists_eq_add_one_of_ne_zero (Nat.ne_zero_of_lt enough)
    obtain @⟨written, after, before, word, key, value, spelled, blankAfter, blankBefore, spells⟩ :=
      head
    simp only [List.length_append, List.length_cons] at enough
    have step : nextMember first (lead ++ '"' :: (written ++ '"' :: (after ++ ':' ::
        (before ++ (word ++ (more ++ '\x7d' :: rest)))))) = .ok (.inl _) :=
      nextMember_eq_inl_iff.mpr ⟨lead, leads, rfl⟩
    have readKey : string (written ++ '"' :: (after ++ ':' ::
        (before ++ (word ++ (more ++ '\x7d' :: rest))))) = .ok (key, _) :=
      string_eq_ok_iff.mpr ⟨written, spelled, rfl⟩
    have pass : colon (after ++ ':' :: (before ++ (word ++ (more ++ '\x7d' :: rest)))) = .ok _ :=
      colon_eq_ok_iff.mpr ⟨after, blankAfter, rfl⟩
    have read := reads spells (by omega : 2 * word.length ≤ limit) blankBefore
      (tail.delimits (by decide : '\x7d' ∈ [']', '\x7d']) rest)
    have readMore := inductionHypothesis (by omega : 2 * more.length < limit)
    simp only [List.append_assoc, List.cons_append, readMembers, step, readKey, pass, read, readMore,
      bind, Except.bind]

end Parts

/-- A value that holds others is read as it is spelled if those are. -/
theorem readValue_nested {levels : Nat}
    (reads : ∀ {word value}, Spells levels word value → IsRead levels word value)
    {word : List Char} {value : Value} (nested : SpellsNested (Spells levels) word value)
    (enough : 2 * word.length ≤ limit + 1) :
    readValue (limit + 1) (levels + 2) (word ++ rest) = .ok (value, rest) := by
  have deep : ¬levels + 2 ≤ 1 := by omega
  cases nested with
  | @list text values parts =>
    simp only [List.length_cons, List.length_append, List.length_nil] at enough
    have read := readItems_of_spells reads parts (by omega : 2 * text.length < limit) rest
    simp [readValue, isBlank, deep, read, bind, Except.bind]
  | @object text members parts =>
    simp only [List.length_cons, List.length_append, List.length_nil] at enough
    have read := readMembers_of_spells reads parts (by omega : 2 * text.length < limit) rest
    simp [readValue, isBlank, deep, read, bind, Except.bind]

/-- Whatever is spelled is read. -/
theorem isRead_of_spells {levels : Nat} {word : List Char} {value : Value}
    (spells : Spells levels word value) : IsRead levels word value := by
  induction levels generalizing word value with
  | zero =>
    intro limit before rest enough blank delimits
    have long := (opensItem_of_spells spells).length_pos
    obtain ⟨limit, rfl⟩ : ∃ more, limit = more + 1 := ⟨limit - 1, by omega⟩
    rw [readValue_blank blank]
    exact readValue_scalar spells delimits
  | succ levels reads =>
    intro limit before rest enough blank delimits
    have long := (opensItem_of_spells spells).length_pos
    obtain ⟨limit, rfl⟩ : ∃ more, limit = more + 1 := ⟨limit - 1, by omega⟩
    rw [readValue_blank blank]
    rcases spells with scalar | nested
    · exact readValue_scalar scalar delimits
    · exact readValue_nested reads nested enough

/-! ## Documents -/

/-- A text decodes to a value exactly if it is one, up to blanks around it. -/
theorem decode_eq_ok_iff {body : String} {value : Value} :
    Value.decode body = .ok value ↔ Document body.toList value := by
  constructor
  · intro decoded
    unfold Value.decode decode at decoded
    dsimp only at decoded
    split at decoded
    · cases decoded
    · next read =>
      split at decoded
      · next blank =>
        cases decoded
        obtain ⟨before, word, blankBefore, spells, parts⟩ := (readIsSpelled _).value read
        exact ⟨before, word, _, blankBefore, skipBlank_eq_nil_iff.mp blank, spells, parts⟩
      · cases decoded
  · rintro ⟨before, word, after, blankBefore, blankAfter, spells, parts⟩
    have delimits : Delimits after := by
      have ends : Delimits [] := by
        rintro _ ⟨⟩
      simpa using blankAfter.delimits_append ends
    have enough : 2 * word.length ≤ 2 * body.toList.length + 2 := by
      rw [parts, List.length_append, List.length_append]
      omega
    have read : anyValue body.toList = .ok (value, after) := by
      rw [parts] at enough ⊢
      exact isRead_of_spells spells enough blankBefore delimits
    simp only [Value.decode, decode, read, skipBlank_eq_nil_iff.mpr blankAfter]

end NodeLookup.Json
