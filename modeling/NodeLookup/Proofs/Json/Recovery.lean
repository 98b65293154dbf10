import Mathlib.Data.List.Forall2
import Mathlib.Tactic.Common
import NodeLookup.Json.Reader
import NodeLookup.Json.Value

/-!
# Reading back compact text

The readers recover what the compact layout wrote. `Recovers` asks for this in front of every text
that may follow, so that the facts about the parts of a list, an object or a record combine into one
about the whole; `recovers_record` is the last of them and is all that the writer of a record uses.
-/

namespace NodeLookup.Json

open Text (hexDigit hexValue? isLeading isTrailing)

/-- A reader recovers a value from a text, whatever follows the text. -/
def Recovers {α : Type} (read : Reader α) (text : List Char) (value : α) : Prop :=
  ∀ rest, read (text ++ rest) = .ok (value, rest)

/-- A text that a reader recovers a value from decodes to that value. -/
theorem decode_of_recovers {α : Type} {read : Reader α} {text : List Char} {value : α}
    (recovers : Recovers read text value) : decode read (String.ofList text) = .ok value := by
  have whole := recovers []
  rw [List.append_nil] at whole
  simp [decode, whole, skipBlank]

/-- Nothing is skipped in front of a character that is not blank. -/
@[simp] theorem skipBlank_cons {char : Char} {rest : List Char} (notBlank : isBlank char = false) :
    skipBlank (char :: rest) = char :: rest := by
  simp [skipBlank, notBlank]

/-! ## Strings -/

/-- A hexadecimal digit has the value that it was written for. -/
theorem hexValue?_hexDigit {value : Nat} (small : value < 16) :
    hexValue? (hexDigit value) = some value := by
  revert value
  decide

/-- A hexadecimal digit is a single byte. -/
theorem utf8Size_hexDigit {value : Nat} (small : value < 16) : (hexDigit value).utf8Size = 1 := by
  revert value
  decide

/-- The four digits written for a control character are read as its number. -/
theorem hexEscape_control {unit : Nat} (small : unit < 0x20) (rest : List Char) :
    hexEscape ('0' :: '0' :: hexDigit (unit / 16) :: hexDigit (unit % 16) :: rest) =
      .ok (unit, rest) := by
  have upper : unit / 16 < 16 := by omega
  have lower : unit % 16 < 16 := by omega
  have bytes : byteLength ['0', '0', hexDigit (unit / 16), hexDigit (unit % 16)] = 4 := by
    simp [byteLength, utf8Size_hexDigit upper, utf8Size_hexDigit lower]
    decide
  have zero : hexValue? '0' = some 0 := by decide
  have value : unit / 16 * 16 + unit % 16 = unit := by omega
  simp [hexEscape, hexValue4?, bytes, zero, hexValue?_hexDigit upper, hexValue?_hexDigit lower,
    value]

/-- The escape written for a control character is read as that character. -/
theorem escape_control {char : Char} (control : char.toNat < 0x20) (rest : List Char) :
    escape ('u' :: '0' :: '0' :: hexDigit (char.toNat / 16) :: hexDigit (char.toNat % 16) :: rest) =
      .ok (char, rest) := by
  have notTrailing : isTrailing char.toNat = false := by
    simp [isTrailing]
    omega
  have notLeading : isLeading char.toNat = false := by
    simp [isLeading]
    omega
  simp [escape, numberEscape, hexEscape_control control, bind, Except.bind, notTrailing,
    notLeading, Char.ofNat_toNat]

/-- A written character is read as itself, in front of the characters read after it. -/
theorem stringChars_writtenChar {limit : Nat} {text rest chars : List Char} (char : Char)
    (more : stringChars limit text = .ok (chars, rest)) :
    stringChars (limit + 1) (writtenChar char ++ text) = .ok (char :: chars, rest) := by
  unfold writtenChar
  split
  case h_8 notQuote notBackslash _ _ _ _ _ =>
    split
    case isTrue control =>
      simp [stringChars, escape_control control, more, bind, Except.bind]
    case isFalse plain =>
      have notControl : isControl char = false := by simpa [isControl] using plain
      simp [stringChars, notControl, more, bind, Except.bind]
  all_goals simp [stringChars, escape, letterEscape?, more, bind, Except.bind]

/-- The written characters of a string are read up to the closing quote. -/
theorem stringChars_written (chars rest : List Char) {limit : Nat} (enough : chars.length < limit) :
    stringChars limit (chars.flatMap writtenChar ++ '"' :: rest) = .ok (chars, rest) := by
  induction chars generalizing limit with
  | nil =>
    obtain ⟨limit, rfl⟩ := Nat.exists_eq_add_one_of_ne_zero (Nat.ne_zero_of_lt enough)
    simp [stringChars]
  | cons char chars inductionHypothesis =>
    obtain ⟨limit, rfl⟩ := Nat.exists_eq_add_one_of_ne_zero (Nat.ne_zero_of_lt enough)
    rw [List.flatMap_cons, List.append_assoc]
    exact stringChars_writtenChar char (inductionHypothesis (Nat.lt_of_succ_lt_succ enough))

/-- A character is written as at least one character. -/
theorem length_writtenChar_pos (char : Char) : 0 < (writtenChar char).length := by
  unfold writtenChar
  split
  case h_8 => split <;> simp
  all_goals simp

/-- A string is no shorter written than read. -/
theorem length_le_length_written (chars : List Char) :
    chars.length ≤ (chars.flatMap writtenChar).length := by
  induction chars with
  | nil => simp
  | cons char chars inductionHypothesis =>
    have one := length_writtenChar_pos char
    rw [List.flatMap_cons, List.length_append, List.length_cons]
    omega

/-- A written string is read back after its opening quote. -/
theorem string_written (text : String) (rest : List Char) :
    string (text.toList.flatMap writtenChar ++ '"' :: rest) = .ok (text, rest) := by
  have enough : text.toList.length <
      (text.toList.flatMap writtenChar ++ '"' :: rest).length + 1 := by
    have short := length_le_length_written text.toList
    rw [List.length_append]
    omega
  simp only [string, stringChars_written text.toList rest enough, bind, Except.bind,
    String.ofList_toList]

/-- A written string is read back. -/
theorem recovers_string (text : String) : Recovers stringValue (writtenString text) text := by
  intro rest
  have whole := string_written text rest
  simpa [stringValue, writtenString, isBlank] using whole

/-! ## Absent values -/

/-- A written `null` is read as nothing. -/
theorem recovers_null {α : Type} (read : Reader α) :
    Recovers (optional read) Value.null.compact none := by
  intro rest
  simp [optional, Value.compact, isBlank, word, bind, Except.bind]

/-- A value whose text does not start like `null` is read as itself where it might be absent. -/
theorem recovers_some {α : Type} {read : Reader α} {head : Char} {text : List Char} {value : α}
    (recovers : Recovers read (head :: text) value) (notBlank : isBlank head = false)
    (notNull : head ≠ 'n') : Recovers (optional read) (head :: text) (some value) := by
  intro rest
  have whole := recovers rest
  rw [List.cons_append] at whole
  simp [optional, notBlank, notNull, whole, bind, Except.bind]

/-- A string that may be absent is read back. -/
theorem recovers_string? (text : Option String) :
    Recovers (optional stringValue) (Value.ofString? text).compact text := by
  cases text with
  | none => exact recovers_null stringValue
  | some text => exact recovers_some (recovers_string text) (by decide) (by decide)

/-! ## Lists -/

/-- What stands in front of a part of a list or an object: a comma, unless it is the first. -/
def lead (first : Bool) : List Char := if first then [] else [',']

/-- The texts of parts with commas between them, and one in front unless the first part is the first
of all. -/
def joined : (first : Bool) → List (List Char) → List Char
  | _, [] => []
  | first, part :: parts => lead first ++ (part ++ joined false parts)

/-- A comma stands after the first of two parts. -/
theorem joined_cons_cons (part next : List Char) (parts : List (List Char)) :
    joined true (part :: next :: parts) = part ++ ',' :: joined true (next :: parts) := by
  simp [joined, lead]

/-- Up to a leading comma, there are no more parts than characters. -/
theorem length_le_length_joined (first : Bool) (parts : List (List Char)) :
    parts.length ≤ (joined first parts).length + 1 := by
  have afterComma : ∀ parts : List (List Char), parts.length ≤ (joined false parts).length := by
    intro parts
    induction parts with
    | nil => simp
    | cons part parts inductionHypothesis =>
      simp only [joined, lead, List.length_append, List.length_cons]
      simp
      omega
  cases parts with
  | nil => simp
  | cons part parts =>
    have more := afterComma parts
    simp only [joined, List.length_append, List.length_cons]
    omega

/-- List items are written as parts. -/
theorem compactItems_eq_joined (items : List Value) :
    compactItems items = joined true (items.map Value.compact) := by
  match items with
  | [] => rfl
  | [item] => simp [compactItems, joined, lead]
  | item :: next :: items =>
    rw [compactItems, compactItems_eq_joined (next :: items)]
    exact (joined_cons_cons item.compact next.compact (items.map Value.compact)).symm

/-- Whether a text may stand as an item: it starts neither with a blank nor with the bracket that
closes the list. -/
def OpensItem (text : List Char) : Prop :=
  ∃ head tail, text = head :: tail ∧ isBlank head = false ∧ head ≠ ']'

/-- Whether a text may stand as an item does not depend on what follows it. -/
theorem OpensItem.append {text : List Char} (opens : OpensItem text) (rest : List Char) :
    OpensItem (text ++ rest) := by
  obtain ⟨head, tail, rfl, visible⟩ := opens
  exact ⟨head, tail ++ rest, rfl, visible⟩

/-- A list goes on with its next item. -/
theorem nextItem_lead (first : Bool) {text : List Char} (opens : OpensItem text) :
    nextItem first (lead first ++ text) = .ok (.inl text) := by
  obtain ⟨head, tail, rfl, notBlank, notClosing⟩ := opens
  have comma : isBlank ',' = false := by decide
  cases first with
  | true => simp [nextItem, lead, notBlank]
  | false => simp [nextItem, lead, comma, notBlank, notClosing]

/-- A list ends with its closing bracket. -/
theorem nextItem_closing (first : Bool) (rest : List Char) :
    nextItem first (']' :: rest) = .ok (.inr rest) := by
  simp [nextItem, isBlank]

/-- Joined items are read back up to the closing bracket. -/
theorem items_joined {α : Type} {read : Reader α} {texts : List (List Char)} {values : List α}
    (recovers : List.Forall₂ (Recovers read) texts values) (opens : ∀ text ∈ texts, OpensItem text)
    (first : Bool) {limit : Nat} (enough : texts.length < limit) (rest : List Char) :
    items read limit first (joined first texts ++ ']' :: rest) = .ok (values, rest) := by
  induction recovers generalizing first limit with
  | nil =>
    obtain ⟨limit, rfl⟩ := Nat.exists_eq_add_one_of_ne_zero (Nat.ne_zero_of_lt enough)
    simp [items, joined, nextItem_closing, bind, Except.bind]
  | @cons text value texts values item _ inductionHypothesis =>
    obtain ⟨limit, rfl⟩ := Nat.exists_eq_add_one_of_ne_zero (Nat.ne_zero_of_lt enough)
    have more := inductionHypothesis (fun text member => opens text (List.mem_cons_of_mem _ member))
      false (Nat.lt_of_succ_lt_succ enough)
    have next := nextItem_lead first
      ((opens text List.mem_cons_self).append (joined false texts ++ ']' :: rest))
    simp only [items, joined, List.append_assoc, next, item _, more, bind, Except.bind]

/-- A written list is read back when each of its items is. -/
theorem recovers_list {α : Type} {read : Reader α} {items : List Value} {values : List α}
    (recovers : List.Forall₂ (fun item value => Recovers read item.compact value) items values)
    (opens : ∀ item ∈ items, OpensItem item.compact) :
    Recovers (listOf read) (Value.list items).compact values := by
  intro rest
  have texts : List.Forall₂ (Recovers read) (items.map Value.compact) values :=
    List.forall₂_map_left_iff.mpr recovers
  have enough : (items.map Value.compact).length <
      (joined true (items.map Value.compact) ++ ']' :: rest).length + 1 := by
    have short := length_le_length_joined true (items.map Value.compact)
    simp only [List.length_append, List.length_cons]
    omega
  have whole := items_joined texts (by simpa using opens) true enough rest
  simpa [listOf, Value.compact, compactItems_eq_joined, isBlank] using whole

/-! ## Objects -/

/-- The text of a member without any blank. -/
def memberText (member : String × Value) : List Char :=
  writtenString member.1 ++ ':' :: member.2.compact

/-- Members are written as parts. -/
theorem compactMembers_eq_joined (members : List (String × Value)) :
    compactMembers members = joined true (members.map memberText) := by
  match members with
  | [] => rfl
  | [(key, value)] => simp [compactMembers, joined, lead, memberText]
  | (key, value) :: next :: members =>
    have parts := joined_cons_cons (memberText (key, value)) (memberText next)
      (members.map memberText)
    rw [compactMembers, compactMembers_eq_joined (next :: members)]
    simpa [memberText] using parts.symm

/-- The text of an object, up to its closing brace and what follows it. -/
theorem compact_object_append (members : List (String × Value)) (rest : List Char) :
    (Value.object members).compact ++ rest =
      '\x7b' :: (joined true (members.map memberText) ++ '\x7d' :: rest) := by
  simp [Value.compact, compactMembers_eq_joined]

/-- A written object may stand as an item. -/
theorem opensItem_object (members : List (String × Value)) :
    OpensItem (Value.object members).compact := by
  exact ⟨'\x7b', _, rfl, by decide, by decide⟩

/-- An object goes on with its next member. -/
theorem nextMember_lead (first : Bool) (rest : List Char) :
    nextMember first (lead first ++ '"' :: rest) = .ok (.inl rest) := by
  cases first with
  | true => simp [nextMember, lead, isBlank]
  | false => simp [nextMember, lead, isBlank]

/-- An object ends with its closing brace. -/
theorem nextMember_closing (first : Bool) (rest : List Char) :
    nextMember first ('\x7d' :: rest) = .ok (.inr rest) := by
  simp [nextMember, isBlank]

/-- A colon is passed over. -/
theorem colon_cons (rest : List Char) : colon (':' :: rest) = .ok rest := by
  simp [colon, isBlank]

/-- The text of the members from one on: its lead, the quote that opens its key, and so on. -/
theorem joined_members_cons (first : Bool) (member : String × Value)
    (members : List (String × Value)) (rest : List Char) :
    joined first ((member :: members).map memberText) ++ rest =
      lead first ++ '"' :: (member.1.toList.flatMap writtenChar ++
        '"' :: ':' :: (member.2.compact ++ (joined false (members.map memberText) ++ rest))) := by
  simp [joined, memberText, writtenString]

/-- Joined members are read back, in order and with repeated keys, up to the closing brace. -/
theorem entries_joined {α : Type} {read : Reader α} {members : List (String × Value)}
    {values : List (String × α)}
    (recovers : List.Forall₂ (fun member value =>
      member.1 = value.1 ∧ Recovers read member.2.compact value.2) members values)
    (first : Bool) {limit : Nat} (enough : members.length < limit) (rest : List Char) :
    entries read limit first (joined first (members.map memberText) ++ '\x7d' :: rest) =
      .ok (values, rest) := by
  induction recovers generalizing first limit with
  | nil =>
    obtain ⟨limit, rfl⟩ := Nat.exists_eq_add_one_of_ne_zero (Nat.ne_zero_of_lt enough)
    simp [entries, joined, nextMember_closing, bind, Except.bind]
  | @cons member value members values head _ inductionHypothesis =>
    obtain ⟨limit, rfl⟩ := Nat.exists_eq_add_one_of_ne_zero (Nat.ne_zero_of_lt enough)
    obtain ⟨key, item⟩ := head
    have more := inductionHypothesis false (Nat.lt_of_succ_lt_succ enough)
    rw [joined_members_cons]
    simp only [entries, nextMember_lead, string_written, colon_cons, item _, more, key, bind,
      Except.bind]

/-- What is written for an object is no shorter than it has members. -/
theorem members_length_lt (members : List (String × Value)) (rest : List Char) :
    members.length < (joined true (members.map memberText) ++ '\x7d' :: rest).length + 1 := by
  have short := length_le_length_joined true (members.map memberText)
  simp only [List.length_map, List.length_append, List.length_cons] at short ⊢
  omega

/-! ## Records -/

/-- Written fields stand for members, one for each and in their order, and bring a record from one
value to another. -/
inductive Fills {σ : Type} : List (Member σ) → List (String × Value) → σ → σ → Prop where
  | nil {value : σ} : Fills [] [] value value
  | cons {member : Member σ} {members : List (Member σ)} {text : Value}
      {fields : List (String × Value)} {change : σ → σ} {value final : σ}
      (recovers : Recovers member.read text.compact change)
      (more : Fills members fields (change value) final) :
      Fills (member :: members) ((member.key, text) :: fields) value final

/-- A member that puts a value into the record is read as that change. -/
theorem recovers_of {σ α : Type} {read : Reader α} {text : List Char} {value : α} (key : String)
    (required : Bool) (put : α → σ → σ) (recovers : Recovers read text value) :
    Recovers (Member.of key required read put).read text (put value) := by
  intro rest
  simp [Member.of, recovers rest, bind, Except.bind]

namespace Record

variable {σ : Type} (record : Record σ)

/-- A record whose members differ in their keys finds each of them under its own. -/
theorem find?_key {done members : List (Member σ)} {member : Member σ}
    (split : record.members = done ++ member :: members)
    (distinct : (record.members.map (·.key)).Nodup) : record.find? member.key = some member := by
  rw [find?, List.find?_eq_some_iff_append]
  refine ⟨by simp, done, members, split, fun other earlier => ?_⟩
  rw [split, List.map_append, List.nodup_append] at distinct
  have differ := distinct.2.2 other.key (List.mem_map_of_mem earlier) member.key (by simp)
  simpa using differ

/-- A member is not among the keys of those before it. -/
theorem not_mem_done {done members : List (Member σ)} {member : Member σ}
    (split : record.members = done ++ member :: members)
    (distinct : (record.members.map (·.key)).Nodup) : member.key ∉ done.map (·.key) := by
  rw [split, List.map_append, List.nodup_append] at distinct
  intro earlier
  exact distinct.2.2 member.key earlier member.key (by simp) rfl

/-- No member is missing once all of them have been seen. -/
theorem missing?_all : record.missing? (record.members.map (·.key)).reverse = none := by
  simp only [missing?, Option.map_eq_none_iff, List.find?_eq_none]
  intro member mem
  have seen : member.key ∈ record.members.map (·.key) := List.mem_map_of_mem mem
  simp [seen]

/-- The fields of the members that are left are read up to the closing brace. The invariant is that
the keys seen are those of the members already done. -/
theorem objectMembers_joined (distinct : (record.members.map (·.key)).Nodup)
    {members : List (Member σ)} {fields : List (String × Value)} {value final : σ}
    (fills : Fills members fields value final) {done : List (Member σ)}
    (split : record.members = done ++ members) (first : Bool) {limit : Nat}
    (enough : fields.length < limit) (rest : List Char) :
    record.objectMembers limit first (done.map (·.key)).reverse value
      (joined first (fields.map memberText) ++ '\x7d' :: rest) = .ok (final, rest) := by
  induction fills generalizing done first limit with
  | nil =>
    obtain ⟨limit, rfl⟩ := Nat.exists_eq_add_one_of_ne_zero (Nat.ne_zero_of_lt enough)
    have complete : record.missing? (done.map (·.key)).reverse = none := by
      rw [List.append_nil] at split
      exact split ▸ record.missing?_all
    simp [objectMembers, joined, nextMember_closing, complete, bind, Except.bind]
  | @cons member members text fields change value final recovers _ inductionHypothesis =>
    obtain ⟨limit, rfl⟩ := Nat.exists_eq_add_one_of_ne_zero (Nat.ne_zero_of_lt enough)
    have found := record.find?_key split distinct
    have fresh : (done.map (·.key)).reverse.contains member.key = false := by
      simpa using record.not_mem_done split distinct
    have step : record.members = (done ++ [member]) ++ members := by simpa using split
    have more := inductionHypothesis step false (Nat.lt_of_succ_lt_succ enough)
    rw [List.map_append, List.reverse_append] at more
    rw [joined_members_cons]
    simp only [objectMembers, nextMember_lead, string_written, found, fresh, colon_cons,
      recovers _, bind, Except.bind]
    exact more

/-- A record that is written with all its members, in the order of their declaration, is read
back. -/
theorem recovers_record (distinct : (record.members.map (·.key)).Nodup)
    {fields : List (String × Value)} {value : σ}
    (fills : Fills record.members fields record.blank value) :
    Recovers record.read (Value.object fields).compact value := by
  intro rest
  have whole := record.objectMembers_joined distinct fills (List.nil_append _).symm true
    (members_length_lt fields rest) rest
  rw [compact_object_append]
  simpa [Record.read, isBlank] using whole

end Record

end NodeLookup.Json
