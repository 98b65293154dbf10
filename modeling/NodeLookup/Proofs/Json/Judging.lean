import NodeLookup.Proofs.Json.Skipping

/-!
# Readers judge forms

What a reader makes of a text depends on the form of the text only. `Judges` says so, together with what
the forms mean to the reader and that the reader accepts nothing but forms, and `Judges.decode_iff`
carries the meaning over to whole texts. `Settles` is the same of a single outcome; it is what readers
that are made of others take over from them (`Settles.bind`).
-/

namespace NodeLookup.Json

open Text (isDigit)

/-- A reader reads a form as a value, however the form is written. -/
def Reads {α : Type} (read : Reader α) (form : Form) (value : α) : Prop :=
  ∀ ⦃before levels word rest⦄, Blank before → Writes levels word form → Delimits rest →
    read (before ++ (word ++ rest)) = .ok (value, rest)

/-- A reader refuses a form, however it is written. -/
def Refuses {α : Type} (read : Reader α) (form : Form) : Prop :=
  ∀ ⦃before levels word rest⦄, Blank before → Writes levels word form → Delimits rest →
    ∃ fault, read (before ++ (word ++ rest)) = .error fault

/-- A reader judges a text by its form: it reads forms as what they mean, refuses those that mean
nothing, and accepts no text but that of a form. -/
structure Judges {α : Type} (read : Reader α) (means : Form → α → Prop) : Prop where
  reads : ∀ {form value}, means form value → Reads read form value
  refuses : ∀ {form}, (∀ value, ¬means form value) → Refuses read form
  written : ∀ {text value rest}, read text = .ok (value, rest) → ∃ before levels word form,
    Blank before ∧ Writes levels word form ∧ text = before ++ (word ++ rest)

/-- A reader judges a text by its form, whatever the forms mean to it. -/
abbrev JudgesForms {α : Type} (read : Reader α) : Prop := Judges read (Reads read)

namespace Judges

variable {α : Type} {read : Reader α} {means : Form → α → Prop} {form : Form} {value : α}

/-- Nothing stands behind a form at the end of a text. -/
theorem delimits_nil : Delimits [] := by
  rintro _ ⟨⟩

/-- A reader reads a form as what it means, and as nothing else. -/
theorem reads_iff (judges : Judges read means) : Reads read form value ↔ means form value := by
  constructor
  · intro reads
    obtain ⟨levels, word, writes⟩ := form.exists_writes
    have known := reads blank_nil writes delimits_nil
    by_cases meant : ∃ other, means form other
    · obtain ⟨other, meant⟩ := meant
      have same := judges.reads meant blank_nil writes delimits_nil
      rw [known] at same
      cases same
      exact meant
    · obtain ⟨fault, refused⟩ :=
        judges.refuses (fun other means => meant ⟨other, means⟩) blank_nil writes delimits_nil
      rw [known] at refused
      cases refused
  · exact judges.reads

/-- What is read is read as one value. -/
theorem reads_unique {other : α} (reads : Reads read form value) (readsOther : Reads read form other) :
    value = other := by
  obtain ⟨levels, word, writes⟩ := form.exists_writes
  have same := reads blank_nil writes delimits_nil
  rw [readsOther blank_nil writes delimits_nil] at same
  cases same
  rfl

/-- A reader that judges texts by what their forms mean judges them by their forms. -/
theorem judgesForms (judges : Judges read means) : JudgesForms read where
  reads meant := meant
  refuses unread := judges.refuses fun value means => unread value (judges.reads means)
  written := judges.written

/-- A text of a form decodes to what the form means, and to nothing else. -/
theorem decode_iff (judges : Judges read means) {body : String} (isText : IsText body.toList form) :
    decode read body = .ok value ↔ means form value := by
  obtain ⟨before, levels, word, after, blankBefore, blankAfter, writes, text⟩ := isText
  have delimits : Delimits after := by simpa using blankAfter.delimits_append delimits_nil
  by_cases meant : ∃ other, means form other
  · obtain ⟨other, meant⟩ := meant
    have known := judges.reads meant blankBefore writes delimits
    rw [← text] at known
    simp only [decode, known, skipBlank_eq_nil_iff.mpr blankAfter, Except.ok.injEq]
    constructor
    · rintro rfl
      exact meant
    · intro means
      exact reads_unique (judges.reads meant) (judges.reads means)
  · refine iff_of_false ?_ fun means => meant ⟨value, means⟩
    obtain ⟨fault, refused⟩ :=
      judges.refuses (fun other means => meant ⟨other, means⟩) blankBefore writes delimits
    rw [← text] at refused
    simp [decode, refused]

/-- Every text that decodes has a form. -/
theorem exists_isText (judges : Judges read means) {body : String}
    (decoded : decode read body = .ok value) : ∃ form, IsText body.toList form := by
  unfold decode at decoded
  dsimp only at decoded
  split at decoded
  · cases decoded
  next known =>
    split at decoded
    · next blank =>
      obtain ⟨before, levels, word, form, blankBefore, writes, text⟩ := judges.written known
      exact ⟨form, before, levels, word, _, blankBefore, skipBlank_eq_nil_iff.mp blank, writes, text⟩
    · cases decoded

end Judges

/-! ## Outcomes -/

/-- An outcome is the only value with a meaning, and all up to the rest of the text has been read; or it
is a fault, and nothing has a meaning. -/
def Settles {α : Type} (outcome : Except Fault (α × List Char)) (rest : List Char)
    (means : α → Prop) : Prop :=
  match outcome with
  | .ok (value, after) => after = rest ∧ ∀ other, means other ↔ other = value
  | .error _ => ∀ value, ¬means value

/-- A value is handed on. -/
theorem ok_bind {ε α β : Type} (value : α) (next : α → Except ε β) :
    (Except.ok value >>= next) = next value := rfl

namespace Settles

variable {α β : Type} {outcome : Except Fault (α × List Char)} {rest after : List Char}
  {means other : α → Prop}

/-- A value settles what it alone means. -/
theorem ok {value : α} (unique : ∀ other, means other ↔ other = value) :
    Settles (.ok (value, rest)) rest means := ⟨rfl, unique⟩

/-- A fault settles what nothing means. -/
theorem error (faulty : ∃ fault, outcome = .error fault) (meaningless : ∀ value, ¬means value) :
    Settles outcome rest means := by
  obtain ⟨fault, rfl⟩ := faulty
  exact meaningless

/-- Where nothing has a meaning, the outcome is a fault. -/
theorem exists_fault (settles : Settles outcome rest means) (meaningless : ∀ value, ¬means value) :
    ∃ fault, outcome = .error fault := by
  cases outcome with
  | ok read => exact absurd ((settles.2 read.1).mpr rfl) (meaningless read.1)
  | error fault => exact ⟨fault, rfl⟩

/-- What has a meaning is the outcome. -/
theorem eq_ok (settles : Settles outcome rest means) {value : α} (meant : means value) :
    outcome = .ok (value, rest) := by
  cases outcome with
  | ok read =>
    obtain ⟨rfl, unique⟩ := settles
    rw [(unique value).mp meant]
  | error fault => exact absurd meant (settles value)

/-- A value is read up to the rest of the text. -/
theorem rest_eq (settles : Settles outcome rest means) {value : α} (read : outcome = .ok (value, after)) :
    after = rest := by
  subst read
  exact settles.1

/-- The meaning may be put in other words. -/
theorem congr (settles : Settles outcome rest means) (same : ∀ value, other value ↔ means value) :
    Settles outcome rest other := by
  have equal : other = means := funext fun value => propext (same value)
  rwa [equal]

/-- What is read behind a value settles the meaning of both. -/
theorem bind (settles : Settles outcome rest means)
    {next : α × List Char → Except Fault (β × List Char)} {meansNext : α → β → Prop}
    (more : ∀ value, means value → Settles (next (value, rest)) after (meansNext value)) :
    Settles (outcome >>= next) after fun result => ∃ value, means value ∧ meansNext value result := by
  cases outcome with
  | error fault =>
    rintro result ⟨value, meant, -⟩
    exact settles value meant
  | ok read =>
    obtain ⟨value, after⟩ := read
    obtain ⟨rfl, unique⟩ := settles
    refine (more value ((unique value).mpr rfl)).congr fun result => ?_
    simp only [unique, exists_eq_left]

/-- What is made of a value has the meaning that the value has. -/
theorem map (settles : Settles outcome rest means) (change : α → β) :
    Settles (do let (value, rest) ← outcome; .ok (change value, rest)) rest
      fun result => ∃ value, means value ∧ result = change value :=
  settles.bind fun _ _ => .ok fun _ => Iff.rfl

end Settles

/-- A form settles what a reader makes of a text. -/
theorem Judges.settles {α : Type} {read : Reader α} {means : Form → α → Prop}
    (judges : Judges read means) {before word rest : List Char} {levels : Nat} {form : Form}
    (blank : Blank before) (writes : Writes levels word form) (delimits : Delimits rest) :
    Settles (read (before ++ (word ++ rest))) rest (means form) := by
  by_cases meant : ∃ value, means form value
  · obtain ⟨value, meant⟩ := meant
    have reads := judges.reads meant
    rw [reads blank writes delimits]
    refine .ok fun other => ⟨fun means => ?_, ?_⟩
    · exact reads_unique (judges.reads means) reads
    · rintro rfl
      exact meant
  · have meaningless : ∀ value, ¬means form value := fun value means => meant ⟨value, means⟩
    exact .error (judges.refuses meaningless blank writes delimits) meaningless

/-- A reader for whose texts the form settles everything judges them by their forms. -/
theorem Judges.of_settles {α : Type} {read : Reader α} {means : Form → α → Prop}
    (settles : ∀ {before levels word rest form}, Blank before → Writes levels word form →
      Delimits rest → Settles (read (before ++ (word ++ rest))) rest (means form))
    (written : ∀ {text value rest}, read text = .ok (value, rest) → ∃ before levels word form,
      Blank before ∧ Writes levels word form ∧ text = before ++ (word ++ rest)) :
    Judges read means where
  reads meant := fun _ _ _ _ blank writes delimits => (settles blank writes delimits).eq_ok meant
  refuses meaningless := fun _ _ _ _ blank writes delimits =>
    (settles blank writes delimits).exists_fault meaningless
  written := written

/-! ## Opening characters -/

/-- Behind blanks, a written form shows its first character. -/
theorem Writes.skipBlank_append {levels : Nat} {before word : List Char} {form : Form}
    (writes : Writes levels word form) (blank : Blank before) (rest : List Char) :
    ∃ head tail, word = head :: tail ∧ form.Opens head ∧
      skipBlank (before ++ (word ++ rest)) = head :: (tail ++ rest) := by
  obtain ⟨head, tail, rfl, opens⟩ := writes.opens
  refine ⟨head, tail, rfl, opens, ?_⟩
  rw [Json.skipBlank_append blank, List.cons_append, skipBlank_cons opens.visible.1]

/-- A reader that refuses every text with one of a form's opening characters refuses the form. -/
theorem refuses_of_opens {α : Type} {read : Reader α} {form : Form}
    (refused : ∀ {head tail text}, form.Opens head → skipBlank text = head :: tail →
      ∃ fault, read text = .error fault) : Refuses read form := by
  intro before levels word rest blank writes _
  obtain ⟨head, tail, rfl, opens, visible⟩ := writes.skipBlank_append blank rest
  exact refused opens visible

/-- Some characters tell the form that they open. -/
theorem Form.Opens.kind {form : Form} {char : Char} (opens : form.Opens char) :
    (char = 'n' → form = .null) ∧ (char = '"' → ∃ content, form = .string content) ∧
      (char = '[' → ∃ items, form = .list items) ∧
      (char = '\x7b' → ∃ members, form = .object members) := by
  cases form with
  | boolean value => cases value <;> cases opens <;> simp
  | number numeral =>
    rcases opens with rfl | isOne
    · simp
    · refine ⟨?_, ?_, ?_, ?_⟩ <;> rintro rfl <;> cases isOne
  | _ => cases opens; simp

/-- Whatever is written holds others or does not. -/
theorem Writes.scalar_or_nested {levels : Nat} {word : List Char} {form : Form}
    (writes : Writes levels word form) :
    WritesScalar word form ∨ ∃ levels, WritesNested (Writes levels) word form := by
  cases levels with
  | zero => exact .inl writes
  | succ levels =>
    rcases writes with scalar | nested
    · exact .inl scalar
    · exact .inr ⟨levels, nested⟩

/-- The literal is written in one way only. -/
theorem Writes.of_null {levels : Nat} {word : List Char} (writes : Writes levels word .null) :
    word = ['n', 'u', 'l', 'l'] := by
  obtain scalar | ⟨inner, nested⟩ := writes.scalar_or_nested
  · cases scalar
    rfl
  · cases nested

/-- A numeral is written as it stands. -/
theorem Writes.of_number {levels : Nat} {word : List Char} {numeral : Numeral}
    (writes : Writes levels word (.number numeral)) : word = numeral.text := by
  obtain scalar | ⟨inner, nested⟩ := writes.scalar_or_nested
  · cases scalar
    rfl
  · cases nested

/-- A string is written by what has its content, in quotes. -/
theorem Writes.of_string {levels : Nat} {word : List Char} {content : Option String}
    (writes : Writes levels word (.string content)) :
    ∃ written, WritesString written content ∧ word = '"' :: (written ++ ['"']) := by
  obtain scalar | ⟨inner, nested⟩ := writes.scalar_or_nested
  · cases scalar with
    | string writes => exact ⟨_, writes, rfl⟩
  · cases nested

/-- A list is written as its parts in brackets. -/
theorem Writes.of_list {levels : Nat} {word : List Char} {items : List Form}
    (writes : Writes levels word (.list items)) :
    ∃ levels text, SpellsParts (Writes levels) true text items ∧ word = '[' :: (text ++ [']']) := by
  obtain scalar | ⟨inner, nested⟩ := writes.scalar_or_nested
  · cases scalar
  · cases nested with
    | list parts => exact ⟨inner, _, parts, rfl⟩

/-- An object is written as its parts in braces. -/
theorem Writes.of_object {levels : Nat} {word : List Char} {members : List (Option String × Form)}
    (writes : Writes levels word (.object members)) :
    ∃ levels text, SpellsParts (WritesMember (Writes levels)) true text members ∧
      word = '\x7b' :: (text ++ ['\x7d']) := by
  obtain scalar | ⟨inner, nested⟩ := writes.scalar_or_nested
  · cases scalar
  · cases nested with
    | object parts => exact ⟨inner, _, parts, rfl⟩

end NodeLookup.Json
