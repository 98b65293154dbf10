import NodeLookup.Proofs.Json.Judging

/-!
# What values mean to their readers

The readers that records are made of judge texts by their forms: strings, values that may be absent,
counts, lists, the members of an object, and the value of a member of a record. Each has a lemma that says
what the forms mean to it, in terms of what they mean to the readers inside.
-/

namespace NodeLookup.Json

open Text (isDigit)

/-! ## Strings -/

/-- The characters behind a quote are read as their content, if they have one. -/
theorem settles_string {written : List Char} {content : Option String}
    (writes : WritesString written content) (rest : List Char) :
    Settles (string (written ++ '"' :: rest)) rest fun text => content = some text := by
  cases known : string (written ++ '"' :: rest) with
  | error fault =>
    intro text isText
    have read : string (written ++ '"' :: rest) = .ok (text, rest) :=
      string_eq_ok_iff.mpr ⟨written, (writes.spells_iff text).mp isText, rfl⟩
    rw [known] at read
    cases read
  | ok read =>
    obtain ⟨text, after⟩ := read
    obtain ⟨other, spells, split⟩ := string_eq_ok_iff.mp known
    have one := skipString_of_writes writes.formed
      (Nat.lt_succ_of_le (Nat.le_max_left written.length other.length)) rest
    have two := skipString_of_writes spells.writesGlyphs
      (Nat.lt_succ_of_le (Nat.le_max_right written.length other.length)) after
    rw [split, two] at one
    cases one
    have same := List.append_cancel_right split
    rw [same] at writes
    have isText := (writes.spells_iff text).mpr spells
    exact ⟨rfl, fun other => by simp [isText, eq_comm]⟩

/-- A string means its content. -/
theorem judges_stringValue : Judges stringValue fun form value => form = .string (some value) := by
  apply Judges.of_settles
  · intro before levels word rest form blank writes delimits
    by_cases isString : ∃ content, form = .string content
    · obtain ⟨content, rfl⟩ := isString
      obtain ⟨written, writesString, rfl⟩ := writes.of_string
      rw [stringValue, skipBlank_append blank, List.cons_append, skipBlank_cons (by decide),
        List.append_assoc]
      exact (settles_string writesString rest).congr fun value => by rw [Form.string.injEq]
    · refine .error ?_ fun value meant => isString ⟨_, meant⟩
      refine refuses_of_opens (fun {head tail text} opens visible => ?_) blank writes delimits
      have notQuote : head ≠ '"' := fun quote => isString (opens.kind.2.1 quote)
      simp [stringValue, visible, notQuote]
  · intro text value rest accepted
    unfold stringValue at accepted
    split at accepted
    · next visible =>
      obtain ⟨written, spells, rfl⟩ := string_eq_ok_iff.mp accepted
      obtain ⟨-, before, blank, rfl⟩ := skipBlank_eq_cons_iff.mp visible
      exact ⟨before, 0, _, _, blank, .string spells.writesString, by simp⟩
    · cases accepted

/-! ## Values that may be absent -/

section Optional

variable {α : Type} {read : Reader α} {means : Form → α → Prop}

/-- Anything but a null is left to the reader. -/
theorem optional_of_visible {head : Char} {tail text : List Char} (visible : skipBlank text = head :: tail)
    (notNull : head ≠ 'n') : optional read text =
      (do let (value, rest) ← read (head :: tail); .ok (some value, rest)) := by
  simp only [optional, visible]
  split
  · next same => exact absurd (List.cons.inj same).1 notNull
  · rfl

/-- A null means nothing, and everything else what it means to the reader. -/
theorem judges_optional (judges : Judges read means) :
    Judges (optional read) fun form value =>
      (form = .null ∧ value = none) ∨
        form ≠ .null ∧ ∃ inner, means form inner ∧ value = some inner := by
  apply Judges.of_settles
  · intro before levels word rest form blank writes delimits
    by_cases isNull : form = .null
    · subst isNull
      have known : optional read (before ++ (['n', 'u', 'l', 'l'] ++ rest)) = .ok (none, rest) := by
        simp [optional, skipBlank_append blank, isBlank, Json.word, bind, Except.bind]
      rw [writes.of_null, known]
      exact .ok fun value => by simp
    · have known := judges.settles blank_nil writes delimits
      obtain ⟨head, tail, rfl, opens, visible⟩ := writes.skipBlank_append blank rest
      have notNull : head ≠ 'n' := fun same => isNull (opens.kind.1 same)
      rw [optional_of_visible visible notNull]
      exact (known.map some).congr fun value => by simp [isNull]
  · intro text value rest accepted
    unfold optional at accepted
    split at accepted
    · next visible =>
      obtain ⟨after, literal, same⟩ := bind_eq_ok_iff.mp accepted
      cases same
      obtain ⟨-, before, blank, rfl⟩ := skipBlank_eq_cons_iff.mp visible
      rw [word_eq_ok_iff.mp literal]
      exact ⟨before, 0, _, _, blank, .null, rfl⟩
    · simp only [bind_eq_ok_iff, Prod.exists] at accepted
      obtain ⟨inner, after, known, same⟩ := accepted
      cases same
      obtain ⟨blanks, blank, split⟩ := exists_blank text
      obtain ⟨before, levels, word, form, blankBefore, writes, parts⟩ := judges.written known
      exact ⟨blanks ++ before, levels, word, form, blank.append blankBefore, writes, by
        rw [split, parts, List.append_assoc]⟩

end Optional

/-! ## Counts -/

/-- A numeral in front of its end is read as the number for which it stands, if there is one. -/
theorem settles_numeral {numeral : Numeral} {rest : List Char} (ends : numeral.Ends rest) :
    Settles (Json.numeral numeral.below (numeral.magnitude ++ rest)) rest
      fun number => numeral.number? = some number := by
  cases known : Json.numeral numeral.below (numeral.magnitude ++ rest) with
  | error fault =>
    intro number stands
    rw [(numeral_of_ends ends).mpr ⟨stands, rfl⟩] at known
    cases known
  | ok read =>
    obtain ⟨stands, same⟩ := (numeral_of_ends ends).mp known
    exact ⟨same.symm, fun other => by simp [stands, eq_comm]⟩

/-- Only natural numbers up to a bound are counts. -/
theorem settles_countOf (number : Number) (rest : List Char) :
    Settles (countOf number rest) rest fun value => number = .natural value ∧ value ≤ greatestCount := by
  cases number with
  | natural natural =>
    rw [countOf]
    split
    · next fits =>
      refine .ok fun value => ⟨fun same => (Number.natural.inj same.1).symm, ?_⟩
      rintro rfl
      exact ⟨rfl, fits⟩
    · next great =>
      rintro value ⟨same, fits⟩
      cases same
      exact great fits
  | negative value => exact .error ⟨_, rfl⟩ (by simp)
  | floating below magnitude => exact .error ⟨_, rfl⟩ (by simp)

/-- A count is read from a numeral by its sign and its magnitude. -/
theorem countValue_of_numeral (numeral : Numeral) {before : List Char} (blank : Blank before)
    (rest : List Char) :
    countValue (before ++ (numeral.text ++ rest)) =
      (Json.numeral numeral.below (numeral.magnitude ++ rest)).bind fun (number, rest) =>
        countOf number rest := by
  cases sign : numeral.below with
  | true =>
    have text : numeral.text = '-' :: numeral.magnitude := by simp [Numeral.text, sign]
    rw [text, countValue, skipBlank_append blank, List.cons_append, skipBlank_cons (by decide)]
    rfl
  | false =>
    have isOne := numeral.whole.isDigit_head
    have text : ∃ tail, numeral.text = numeral.whole.head :: tail ∧
        numeral.magnitude = numeral.whole.head :: tail :=
      ⟨_, by rw [Numeral.text, sign]; rfl, rfl⟩
    obtain ⟨tail, text, magnitude⟩ := text
    have notMinus : numeral.whole.head ≠ '-' := by
      intro same
      rw [same] at isOne
      cases isOne
    rw [text, magnitude, countValue, skipBlank_append blank, List.cons_append,
      skipBlank_cons (isBlank_of_isDigit isOne)]
    split
    · next same => exact absurd (List.cons.inj same).1 notMinus
    · next same =>
      obtain ⟨rfl, rfl⟩ := List.cons.inj same
      rw [if_pos isOne]
      rfl
    · next same => cases same

/-- A count means the numerals that stand for it. -/
theorem judges_countValue : Judges countValue fun form value => ∃ numeral, form = .number numeral ∧
    numeral.number? = some (.natural value) ∧ value ≤ greatestCount := by
  apply Judges.of_settles
  · intro before levels word rest form blank writes delimits
    by_cases isNumber : ∃ numeral, form = .number numeral
    · obtain ⟨numeral, rfl⟩ := isNumber
      rw [writes.of_number, countValue_of_numeral numeral blank]
      have counts : ∀ number, numeral.number? = some number → Settles (countOf number rest) rest
          fun value => number = .natural value ∧ value ≤ greatestCount :=
        fun number _ => settles_countOf number rest
      exact ((settles_numeral (delimits.ends numeral)).bind counts).congr fun value => by simp
    · refine .error ?_ fun value meant => isNumber ⟨_, meant.choose_spec.1⟩
      refine refuses_of_opens (fun {head tail text} opens visible => ?_) blank writes delimits
      have noSign : head ≠ '-' ∧ isDigit head = false := by
        cases form with
        | number numeral => exact absurd ⟨numeral, rfl⟩ isNumber
        | boolean value => cases value <;> cases opens <;> decide
        | _ => cases opens; decide
      simp [countValue, visible, noSign]
  · intro text value rest accepted
    have spelled : ∀ {below magnitude after number before}, Blank before →
        Json.numeral below magnitude = .ok (number, after) →
        text = before ++ ((if below then ['-'] else []) ++ magnitude) → after = rest →
        ∃ before levels word form, Blank before ∧ Writes levels word form ∧
          text = before ++ (word ++ rest) := by
      rintro below magnitude after number before blank known rfl rfl
      obtain ⟨numeral, rfl, rfl, -, -⟩ := numeral_eq_ok_iff.mp known
      refine ⟨before, 0, numeral.text, .number numeral, blank, .number numeral, ?_⟩
      cases sign : numeral.below <;> simp [Numeral.text, sign]
    unfold countValue at accepted
    split at accepted
    · next visible =>
      simp only [bind_eq_ok_iff, Prod.exists] at accepted
      obtain ⟨number, after, known, judged⟩ := accepted
      obtain ⟨-, before, blank, rfl⟩ := skipBlank_eq_cons_iff.mp visible
      exact spelled blank known rfl ((settles_countOf number after).rest_eq judged).symm
    · next visible =>
      split at accepted
      · simp only [bind_eq_ok_iff, Prod.exists] at accepted
        obtain ⟨number, after, known, judged⟩ := accepted
        obtain ⟨-, before, blank, rfl⟩ := skipBlank_eq_cons_iff.mp visible
        exact spelled blank known rfl ((settles_countOf number after).rest_eq judged).symm
      · cases accepted
    · cases accepted

/-! ## Lists -/

/-- A part of a list stands for a part of the other, and what stands for that may be put in its place. -/
theorem exists_of_forall₂_append {α β : Type} {means : α → β → Prop} {earlier later : List α} {part : α}
    {values : List β} (all : List.Forall₂ means (earlier ++ part :: later) values) :
    ∃ value, values[earlier.length]? = some value ∧ means part value ∧
      ∀ other, means other value → List.Forall₂ means (earlier ++ other :: later) values := by
  induction earlier generalizing values with
  | nil =>
    cases all with
    | cons meant more => exact ⟨_, rfl, meant, fun other means => .cons means more⟩
  | cons head earlier inductionHypothesis =>
    cases all with
    | cons meant more =>
      obtain ⟨value, found, here, elsewhere⟩ := inductionHypothesis more
      exact ⟨value, by simpa using found, here, fun other means => .cons meant (elsewhere other means)⟩

section Lists

variable {α : Type} {read : Reader α} {means : Form → α → Prop} (judges : Judges read means)

include judges

/-- Items mean what each of them means. -/
theorem settles_items {levels : Nat} {first : Bool} {body : List Char} {forms : List Form}
    (parts : SpellsParts (Writes levels) first body forms) {limit : Nat} (enough : body.length < limit)
    (rest : List Char) :
    Settles (items read limit first (body ++ ']' :: rest)) rest (List.Forall₂ means forms) := by
  induction parts generalizing limit with
  | @done first after blank =>
    obtain ⟨limit, rfl⟩ := Nat.exists_eq_add_one_of_ne_zero (Nat.ne_zero_of_lt enough)
    have step : nextItem first (after ++ ']' :: rest) = .ok (.inr rest) :=
      nextItem_eq_inr_iff.mpr ⟨after, blank, rfl⟩
    simp only [items, step, bind, Except.bind]
    exact .ok fun values => by simp
  | @part first lead word more form forms leads head tail inductionHypothesis =>
    obtain ⟨limit, rfl⟩ := Nat.exists_eq_add_one_of_ne_zero (Nat.ne_zero_of_lt enough)
    have long := head.length_pos
    simp only [List.length_append] at enough
    have step : nextItem first (lead ++ (word ++ (more ++ ']' :: rest))) =
        .ok (.inl (word ++ (more ++ ']' :: rest))) :=
      nextItem_eq_inl_iff.mpr ⟨head.opensItem.append _, lead, leads, rfl⟩
    have delimits := tail.delimits (by decide : ']' ∈ [']', '\x7d']) rest
    have item := judges.settles blank_nil head delimits
    have others := inductionHypothesis (by omega : more.length < limit)
    rw [List.append_assoc, List.append_assoc, items, step]
    refine (item.bind fun value _ => others.map (value :: ·)).congr fun values => ?_
    rw [List.forall₂_cons_left_iff]
    simp

/-- Items that are read are written. -/
theorem exists_of_items {limit : Nat} {first : Bool} {text rest : List Char} {values : List α}
    (accepted : items read limit first text = .ok (values, rest)) :
    ∃ levels body forms, SpellsParts (Writes levels) first body forms ∧ text = body ++ ']' :: rest := by
  induction limit generalizing first text values with
  | zero => cases accepted
  | succ limit inductionHypothesis =>
    simp only [items, bind_eq_ok_iff] at accepted
    obtain ⟨next, step, accepted⟩ := accepted
    cases next with
    | inr after =>
      cases accepted
      obtain ⟨blanks, blank, rfl⟩ := nextItem_eq_inr_iff.mp step
      exact ⟨0, blanks, [], .done blank, rfl⟩
    | inl item =>
      simp only [bind_eq_ok_iff, Prod.exists] at accepted
      obtain ⟨value, middle, known, values, after, more, same⟩ := accepted
      cases same
      obtain ⟨-, lead, leads, rfl⟩ := nextItem_eq_inl_iff.mp step
      obtain ⟨before, one, word, form, blank, writes, rfl⟩ := judges.written known
      obtain ⟨other, body, forms, parts, rfl⟩ := inductionHypothesis more
      exact ⟨max one other, _, _, writes.part (leads.append blank) parts, by simp⟩

/-- A list means what its items mean. -/
theorem judges_listOf : Judges (listOf read) fun form values =>
    ∃ forms, form = .list forms ∧ List.Forall₂ means forms values := by
  apply Judges.of_settles
  · intro before levels word rest form blank writes delimits
    by_cases isList : ∃ forms, form = .list forms
    · obtain ⟨forms, rfl⟩ := isList
      obtain ⟨inner, body, parts, rfl⟩ := writes.of_list
      have enough : body.length < (body ++ ']' :: rest).length + 1 := by
        rw [List.length_append]
        omega
      have known := settles_items judges parts enough rest
      rw [listOf, skipBlank_append blank, List.cons_append, skipBlank_cons (by decide),
        List.append_assoc]
      exact known.congr fun values => by simp
    · refine .error ?_ fun values meant => isList ⟨_, meant.choose_spec.1⟩
      refine refuses_of_opens (fun {head tail text} opens visible => ?_) blank writes delimits
      have notBracket : head ≠ '[' := fun same => isList (opens.kind.2.2.1 same)
      simp [listOf, visible, notBracket]
  · intro text values rest accepted
    unfold listOf at accepted
    split at accepted
    · next visible =>
      obtain ⟨levels, body, forms, parts, rfl⟩ := exists_of_items judges accepted
      obtain ⟨-, before, blank, rfl⟩ := skipBlank_eq_cons_iff.mp visible
      exact ⟨before, levels + 1, _, _, blank, .inr (.list parts), by simp⟩
    · cases accepted

/-- An item of a list that is read is read, and what is read the same may be put in its place. -/
theorem exists_of_reads_item {earlier later : List Form} {part : Form} {values : List α}
    (reads : Reads (listOf read) (.list (earlier ++ part :: later)) values) :
    ∃ value, values[earlier.length]? = some value ∧ Reads read part value ∧
      ∀ other, Reads read other value → Reads (listOf read) (.list (earlier ++ other :: later)) values := by
  have judgesList := judges_listOf judges.judgesForms
  obtain ⟨forms, same, all⟩ := judgesList.reads_iff.mp reads
  cases same
  obtain ⟨value, found, meant, elsewhere⟩ := exists_of_forall₂_append all
  exact ⟨value, found, meant, fun other reads =>
    judgesList.reads ⟨_, rfl, elsewhere other reads⟩⟩

end Lists

/-! ## Objects -/

/-- A written member is not empty. -/
theorem WritesMember.length_pos {writes : List Char → Form → Prop} {text : List Char}
    {member : Option String × Form} (written : WritesMember writes text member) : 0 < text.length := by
  cases written
  simp

/-- A member is read in three steps: its quote is found, the key is read, and the colon is passed over,
so that its value is next. -/
theorem WritesMember.exists_steps {levels : Nat} {first : Bool} {lead text : List Char}
    {key : Option String} {form : Form} (written : WritesMember (Writes levels) text (key, form))
    (leads : Leads first lead) (rest : List Char) :
    ∃ quoted named before word, nextMember first (lead ++ (text ++ rest)) = .ok (.inl quoted) ∧
      Settles (string quoted) named (fun text => key = some text) ∧
      colon named = .ok (before ++ (word ++ rest)) ∧ Blank before ∧ Writes levels word form := by
  cases written with
  | @mk spelled after before word _ _ writesKey blankAfter blankBefore writes =>
    refine ⟨spelled ++ '"' :: (after ++ ':' :: (before ++ (word ++ rest))),
      after ++ ':' :: (before ++ (word ++ rest)), before, word, ?_, ?_, ?_, blankBefore, writes⟩
    · exact nextMember_eq_inl_iff.mpr ⟨lead, leads, by simp⟩
    · exact settles_string writesKey _
    · exact colon_eq_ok_iff.mpr ⟨after, blankAfter, rfl⟩

section Objects

variable {α : Type} {read : Reader α} {means : Form → α → Prop} (judges : Judges read means)

include judges

/-- Members mean their keys and what each of their values means. -/
theorem settles_entries {levels : Nat} {first : Bool} {body : List Char}
    {members : List (Option String × Form)}
    (parts : SpellsParts (WritesMember (Writes levels)) first body members) {limit : Nat}
    (enough : body.length < limit) (rest : List Char) :
    Settles (entries read limit first (body ++ '\x7d' :: rest)) rest
      (List.Forall₂ (fun member entry => member.1 = some entry.1 ∧ means member.2 entry.2)
        members) := by
  induction parts generalizing limit with
  | @done first after blank =>
    obtain ⟨limit, rfl⟩ := Nat.exists_eq_add_one_of_ne_zero (Nat.ne_zero_of_lt enough)
    have step : nextMember first (after ++ '\x7d' :: rest) = .ok (.inr rest) :=
      nextMember_eq_inr_iff.mpr ⟨after, blank, rfl⟩
    simp only [entries, step, bind, Except.bind]
    exact .ok fun values => by simp
  | @part first lead text more member members leads head tail inductionHypothesis =>
    obtain ⟨limit, rfl⟩ := Nat.exists_eq_add_one_of_ne_zero (Nat.ne_zero_of_lt enough)
    obtain ⟨key, form⟩ := member
    have long := head.length_pos
    simp only [List.length_append] at enough
    obtain ⟨quoted, named, before, word, step, content, pass, blank, writes⟩ :=
      head.exists_steps leads (more ++ '\x7d' :: rest)
    have delimits := tail.delimits (by decide : '\x7d' ∈ [']', '\x7d']) rest
    have value := judges.settles blank writes delimits
    have others := inductionHypothesis (by omega : more.length < limit)
    simp only [List.append_assoc, entries, step, ok_bind]
    cases key with
    | none =>
      obtain ⟨fault, refused⟩ := content.exists_fault (by simp)
      refine .error ⟨fault, by rw [refused]; rfl⟩ fun entries meant => ?_
      cases meant with
      | cons same _ => cases same.1
    | some text =>
      simp only [content.eq_ok rfl, ok_bind, pass]
      refine (value.bind fun value _ => others.map ((text, value) :: ·)).congr fun entries => ?_
      rw [List.forall₂_cons_left_iff]
      simp

/-- Members that are read are written. -/
theorem exists_of_entries {limit : Nat} {first : Bool} {text rest : List Char}
    {values : List (String × α)} (accepted : entries read limit first text = .ok (values, rest)) :
    ∃ levels body members, SpellsParts (WritesMember (Writes levels)) first body members ∧
      text = body ++ '\x7d' :: rest := by
  induction limit generalizing first text values with
  | zero => cases accepted
  | succ limit inductionHypothesis =>
    simp only [entries, bind_eq_ok_iff] at accepted
    obtain ⟨next, step, accepted⟩ := accepted
    cases next with
    | inr after =>
      cases accepted
      obtain ⟨blanks, blank, rfl⟩ := nextMember_eq_inr_iff.mp step
      exact ⟨0, blanks, [], .done blank, rfl⟩
    | inl item =>
      simp only [bind_eq_ok_iff, Prod.exists, string_eq_ok_iff, colon_eq_ok_iff] at accepted
      obtain ⟨key, _, ⟨written, spelled, rfl⟩, _, ⟨between, blankBetween, rfl⟩, accepted⟩ := accepted
      obtain ⟨value, middle, known, values, after, more, same⟩ := accepted
      cases same
      obtain ⟨lead, leads, rfl⟩ := nextMember_eq_inl_iff.mp step
      obtain ⟨before, one, word, form, blank, writes, rfl⟩ := judges.written known
      obtain ⟨other, body, members, parts, rfl⟩ := inductionHypothesis more
      have member := WritesMember.mk spelled.writesString blankBetween blank writes
      exact ⟨max one other, _, _, member.part leads parts, by simp⟩

end Objects

/-! ## Members -/

/-- A member has the key that it is given. -/
@[simp] theorem member_of_key {σ α : Type} (key : String) (required : Bool) (read : Reader α)
    (put : α → σ → σ) : (Member.of key required read put).key = key := rfl

/-- A member is required if it is said to be. -/
@[simp] theorem member_of_required {σ α : Type} (key : String) (required : Bool) (read : Reader α)
    (put : α → σ → σ) : (Member.of key required read put).required = required := rfl

/-- The value of a member means the change that it makes to a record. -/
theorem judges_member {σ α : Type} {read : Reader α} {means : Form → α → Prop}
    (judges : Judges read means) (key : String) (required : Bool) (put : α → σ → σ) :
    Judges (Member.of key required read put).read fun form change =>
      ∃ value, means form value ∧ change = put value := by
  apply Judges.of_settles
  · intro before levels word rest form blank writes delimits
    exact (judges.settles blank writes delimits).map put
  · intro text change rest accepted
    simp only [Member.of, bind_eq_ok_iff, Prod.exists] at accepted
    obtain ⟨value, after, known, same⟩ := accepted
    cases same
    exact judges.written known

/-- The reader of a member judges texts by their forms if the reader of its value does. -/
theorem judgesForms_member {σ α : Type} {read : Reader α} (judges : JudgesForms read) (key : String)
    (required : Bool) (put : α → σ → σ) : JudgesForms (Member.of key required read put).read :=
  (judges_member judges key required put).judgesForms

end NodeLookup.Json
