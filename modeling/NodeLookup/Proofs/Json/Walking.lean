import NodeLookup.Proofs.Json.Values

/-!
# How records are read from forms

A record takes its members from an object in the order of the text, or from a list in the order in which
it declares them. `Record.Absorbs` and `Record.Enlists` are the two walks on forms, step for step as the
reader takes them on texts; `Record.judges_read` says that the reader is nothing but these walks, as long
as the readers of the members judge texts by their forms.
-/

namespace NodeLookup.Json

namespace Record

variable {σ : Type} (record : Record σ)

/-! ## Walks -/

/-- A record takes further members of an object, with some keys behind it, up to the end. -/
inductive Absorbs : List String → σ → List (Option String × Form) → σ → Prop where
  | done {seen : List String} {value : σ} (complete : record.missing? seen = none) :
      Absorbs seen value [] value
  | unknown {seen : List String} {value result : σ} {key : String} {form : Form}
      {entries : List (Option String × Form)} (unknown : record.find? key = none)
      (more : Absorbs seen value entries result) :
      Absorbs seen value ((some key, form) :: entries) result
  | known {seen : List String} {value result : σ} {key : String} {form : Form}
      {entries : List (Option String × Form)} {member : Member σ} {change : σ → σ}
      (known : record.find? key = some member) (fresh : key ∉ seen)
      (reads : Reads member.read form change)
      (more : Absorbs (key :: seen) (change value) entries result) :
      Absorbs seen value ((some key, form) :: entries) result

/-- A record takes the items of a list for its remaining members, up to the end of the list. -/
inductive Enlists : List (Member σ) → σ → List Form → σ → Prop where
  | done {fields : List (Member σ)} {value : σ}
      (optional : ∀ member ∈ fields, member.required = false) : Enlists fields value [] value
  | item {member : Member σ} {fields : List (Member σ)} {value result : σ} {form : Form}
      {items : List Form} {change : σ → σ} (reads : Reads member.read form change)
      (more : Enlists fields (change value) items result) :
      Enlists (member :: fields) value (form :: items) result

/-- A record is read from an object or a list by walking through it. -/
inductive Accepts : Form → σ → Prop where
  | object {entries : List (Option String × Form)} {value : σ}
      (absorbs : record.Absorbs [] record.blank entries value) : Accepts (.object entries) value
  | list {items : List Form} {value : σ} (enlists : Enlists record.members record.blank items value) :
      Accepts (.list items) value

section Steps

variable {record} {seen : List String} {value result : σ} {key : String} {form : Form}
  {entries : List (Option String × Form)}

/-- At the end of an object, the walk ends or a member is missing. -/
theorem absorbs_nil_iff :
    record.Absorbs seen value [] result ↔ record.missing? seen = none ∧ result = value := by
  constructor
  · intro absorbs
    cases absorbs with
    | done complete => exact ⟨complete, rfl⟩
  · rintro ⟨complete, rfl⟩
    exact .done complete

/-- The walk stops at a key that is no text. -/
theorem not_absorbs_none : ¬record.Absorbs seen value ((none, form) :: entries) result := nofun

/-- The walk passes over unknown keys. -/
theorem absorbs_unknown_iff (unknown : record.find? key = none) :
    record.Absorbs seen value ((some key, form) :: entries) result ↔
      record.Absorbs seen value entries result := by
  constructor
  · intro absorbs
    cases absorbs with
    | unknown _ more => exact more
    | known known => rw [unknown] at known; cases known
  · exact .unknown unknown

/-- The walk takes a known key once. -/
theorem absorbs_known_iff {member : Member σ} (known : record.find? key = some member) :
    record.Absorbs seen value ((some key, form) :: entries) result ↔
      key ∉ seen ∧ ∃ change, Reads member.read form change ∧
        record.Absorbs (key :: seen) (change value) entries result := by
  constructor
  · intro absorbs
    cases absorbs with
    | unknown unknown => rw [unknown] at known; cases known
    | known other fresh reads more =>
      rw [known] at other
      cases other
      exact ⟨fresh, _, reads, more⟩
  · rintro ⟨fresh, change, reads, more⟩
    exact .known known fresh reads more

/-- No member is missing exactly if all required ones have been seen. -/
theorem missing?_eq_none_iff :
    record.missing? seen = none ↔ ∀ member ∈ record.members, member.required → member.key ∈ seen := by
  simp [missing?, List.find?_eq_none]

/-- A known key is that of a member. -/
theorem of_find? {member : Member σ} (known : record.find? key = some member) :
    member ∈ record.members ∧ member.key = key := by
  obtain ⟨same, member⟩ := And.intro (List.find?_some known) (List.mem_of_find?_eq_some known)
  exact ⟨member, by simpa using same⟩

/-- At the end of a list, the walk ends or a required member is missing. -/
theorem enlists_nil_iff {fields : List (Member σ)} :
    Enlists fields value [] result ↔
      (∀ member ∈ fields, member.required = false) ∧ result = value := by
  constructor
  · intro enlists
    cases enlists with
    | done optional => exact ⟨optional, rfl⟩
  · rintro ⟨optional, rfl⟩
    exact .done optional

/-- The walk takes one item for each member. -/
theorem enlists_cons_iff {member : Member σ} {fields : List (Member σ)} {items : List Form} :
    Enlists (member :: fields) value (form :: items) result ↔
      ∃ change, Reads member.read form change ∧ Enlists fields (change value) items result := by
  constructor
  · intro enlists
    cases enlists with
    | item reads more => exact ⟨_, reads, more⟩
  · rintro ⟨change, reads, more⟩
    exact .item reads more

end Steps

/-! ## Objects -/

section Judged

variable {record} (judged : ∀ member ∈ record.members, JudgesForms member.read)

include judged

/-- The members of an object are read by walking through them. -/
theorem settles_objectMembers {levels : Nat} {first : Bool} {body : List Char}
    {entries : List (Option String × Form)}
    (parts : SpellsParts (WritesMember (Writes levels)) first body entries) {limit : Nat}
    (enough : body.length < limit) (seen : List String) (value : σ) (rest : List Char) :
    Settles (record.objectMembers limit first seen value (body ++ '\x7d' :: rest)) rest
      (record.Absorbs seen value entries) := by
  induction parts generalizing limit seen value with
  | @done first after blank =>
    obtain ⟨limit, rfl⟩ := Nat.exists_eq_add_one_of_ne_zero (Nat.ne_zero_of_lt enough)
    have step : nextMember first (after ++ '\x7d' :: rest) = .ok (.inr rest) :=
      nextMember_eq_inr_iff.mpr ⟨after, blank, rfl⟩
    simp only [objectMembers, step, ok_bind]
    cases complete : record.missing? seen with
    | some key => exact .error ⟨_, rfl⟩ fun other => by simp [absorbs_nil_iff, complete]
    | none => exact .ok fun other => by simp [absorbs_nil_iff, complete]
  | @part first lead text more entry entries leads head tail inductionHypothesis =>
    obtain ⟨limit, rfl⟩ := Nat.exists_eq_add_one_of_ne_zero (Nat.ne_zero_of_lt enough)
    obtain ⟨key, form⟩ := entry
    have long := head.length_pos
    simp only [List.length_append] at enough
    obtain ⟨quoted, named, before, word, step, content, pass, blank, writes⟩ :=
      head.exists_steps leads (more ++ '\x7d' :: rest)
    have delimits := tail.delimits (by decide : '\x7d' ∈ [']', '\x7d']) rest
    have others := inductionHypothesis (by omega : more.length < limit)
    simp only [List.append_assoc, objectMembers, step, ok_bind]
    cases key with
    | none =>
      obtain ⟨fault, refused⟩ := content.exists_fault (by simp)
      exact .error ⟨fault, by rw [refused]; rfl⟩ fun other => not_absorbs_none
    | some key =>
      simp only [content.eq_ok rfl, ok_bind, pass]
      cases known : record.find? key with
      | none =>
        simp only [skipValue_eq_ok blank writes delimits, ok_bind]
        exact (others seen value).congr fun result => absorbs_unknown_iff known
      | some member =>
        by_cases taken : key ∈ seen
        · simp only [List.contains_iff_mem, taken, if_true]
          exact .error ⟨_, rfl⟩ fun other => by simp [absorbs_known_iff known, taken]
        · simp only [List.contains_iff_mem, taken, if_false]
          have item := (judged member (of_find? known).1).settles blank writes delimits
          refine (item.bind fun change _ => others (key :: seen) (change value)).congr fun result => ?_
          rw [absorbs_known_iff known, and_iff_right taken]

/-- The members of an object that are read are written. -/
theorem exists_of_objectMembers {limit : Nat} {first : Bool} {seen : List String} {value result : σ}
    {text rest : List Char}
    (accepted : record.objectMembers limit first seen value text = .ok (result, rest)) :
    ∃ levels body entries, SpellsParts (WritesMember (Writes levels)) first body entries ∧
      text = body ++ '\x7d' :: rest := by
  induction limit generalizing first seen value text with
  | zero => cases accepted
  | succ limit inductionHypothesis =>
    simp only [objectMembers, bind_eq_ok_iff] at accepted
    obtain ⟨next, step, accepted⟩ := accepted
    cases next with
    | inr after =>
      obtain ⟨blanks, blank, rfl⟩ := nextMember_eq_inr_iff.mp step
      dsimp only at accepted
      split at accepted
      · cases accepted
      · cases accepted
        exact ⟨0, blanks, [], .done blank, rfl⟩
    | inl item =>
      simp only [bind_eq_ok_iff, Prod.exists, string_eq_ok_iff] at accepted
      obtain ⟨key, _, ⟨written, spelled, rfl⟩, accepted⟩ := accepted
      obtain ⟨lead, leads, rfl⟩ := nextMember_eq_inl_iff.mp step
      -- Whichever reader passes over the value, a form is written there.
      have behind : ∀ {between after before one word form next seen value}, Blank between →
          Blank before → Writes one word form → after = between ++ ':' :: (before ++ (word ++ next)) →
          record.objectMembers limit false seen value next = .ok (result, rest) →
          ∃ levels body entries, SpellsParts (WritesMember (Writes levels)) first body entries ∧
            lead ++ '"' :: (written ++ '"' :: after) = body ++ '\x7d' :: rest := by
        rintro between after before one word form next seen value blankBetween blank writes rfl more
        obtain ⟨other, body, entries, parts, rfl⟩ := inductionHypothesis more
        have member := WritesMember.mk spelled.writesString blankBetween blank writes
        exact ⟨max one other, _, _, member.part leads parts, by simp⟩
      split at accepted
      · simp only [bind_eq_ok_iff, colon_eq_ok_iff] at accepted
        obtain ⟨_, ⟨between, blankBetween, rfl⟩, _, skipped, more⟩ := accepted
        obtain ⟨before, levels, word, form, blank, writes, rfl⟩ := exists_of_skipValue skipped
        exact behind blankBetween blank writes rfl more
      · next member known =>
        split at accepted
        · cases accepted
        · simp only [bind_eq_ok_iff, Prod.exists, colon_eq_ok_iff] at accepted
          obtain ⟨_, ⟨between, blankBetween, rfl⟩, change, _, read, more⟩ := accepted
          obtain ⟨before, levels, word, form, blank, writes, rfl⟩ :=
            (judged member (of_find? known).1).written read
          exact behind blankBetween blank writes rfl more

end Judged

/-! ## Lists -/

/-- The list form is closed exactly where its bracket closes. -/
theorem closeList_eq_ok_iff {text rest : List Char} :
    closeList text = .ok rest ↔ ∃ after, Blank after ∧ text = after ++ ']' :: rest := by
  constructor
  · intro closed
    unfold closeList at closed
    split at closed
    · cases closed
    · next visible =>
      cases closed
      exact (skipBlank_eq_cons_iff.mp visible).2
    · split at closed <;> cases closed
    · cases closed
  · rintro ⟨after, blank, rfl⟩
    simp [closeList, skipBlank_append blank, isBlank]

/-- The list form is not closed in front of an item. -/
theorem closeList_item {first : Bool} {text item : List Char}
    (step : nextItem first text = .ok (.inl item)) : ∃ fault, closeList text = .error fault := by
  cases closed : closeList text with
  | error fault => exact ⟨fault, rfl⟩
  | ok rest =>
    rw [nextItem_eq_inr_iff.mpr (closeList_eq_ok_iff.mp closed)] at step
    cases step

/-- The members of a list are read by walking through it. -/
theorem settles_listMembers {fields : List (Member σ)}
    (judged : ∀ member ∈ fields, JudgesForms member.read) {levels : Nat} {first : Bool}
    {body : List Char} {items : List Form} (parts : SpellsParts (Writes levels) first body items)
    {index : Nat} (begins : (index == 0) = first) (value : σ) (rest : List Char) :
    Settles (record.listMembers fields index value (body ++ ']' :: rest)) rest
      (Enlists fields value items) := by
  induction parts generalizing fields index value with
  | @done first after blank =>
    cases fields with
    | nil =>
      have closed : closeList (after ++ ']' :: rest) = .ok rest :=
        closeList_eq_ok_iff.mpr ⟨after, blank, rfl⟩
      rw [listMembers, closed]
      exact .ok fun other => by simp [enlists_nil_iff]
    | cons member fields =>
      have step : nextItem first (after ++ ']' :: rest) = .ok (.inr rest) :=
        nextItem_eq_inr_iff.mpr ⟨after, blank, rfl⟩
      simp only [listMembers, begins, step, ok_bind]
      cases missing : (member :: fields).findIdx? (·.required) with
      | some offset =>
        refine .error ⟨_, rfl⟩ fun other enlists => ?_
        have optional := (enlists_nil_iff.mp enlists).1
        rw [List.findIdx?_eq_none_iff.mpr optional] at missing
        cases missing
      | none =>
        refine .ok fun other => ?_
        rw [enlists_nil_iff, and_iff_right (List.findIdx?_eq_none_iff.mp missing)]
  | @part first lead word more form items leads head tail inductionHypothesis =>
    have step : nextItem first (lead ++ (word ++ (more ++ ']' :: rest))) =
        .ok (.inl (word ++ (more ++ ']' :: rest))) :=
      nextItem_eq_inl_iff.mpr ⟨head.opensItem.append _, lead, leads, rfl⟩
    rw [List.append_assoc, List.append_assoc]
    cases fields with
    | nil =>
      obtain ⟨fault, refused⟩ := closeList_item step
      refine .error ⟨fault, ?_⟩ nofun
      rw [listMembers, refused]
      rfl
    | cons member fields =>
      have delimits := tail.delimits (by decide : ']' ∈ [']', '\x7d']) rest
      have item := (judged member List.mem_cons_self).settles blank_nil head delimits
      have others := inductionHypothesis (fun member among => judged member (.tail _ among))
        (by simp : (index + 1 == 0) = false)
      simp only [listMembers, begins, step, ok_bind]
      exact (item.bind fun change _ => others (change value)).congr fun result => enlists_cons_iff

/-- The members of a list that are read are written. -/
theorem exists_of_listMembers {fields : List (Member σ)}
    (judged : ∀ member ∈ fields, JudgesForms member.read) {index : Nat} {value result : σ}
    {text rest : List Char}
    (accepted : record.listMembers fields index value text = .ok (result, rest)) :
    ∃ levels body items, SpellsParts (Writes levels) (index == 0) body items ∧
      text = body ++ ']' :: rest := by
  induction fields generalizing index value text with
  | nil =>
    simp only [listMembers, bind_eq_ok_iff, closeList_eq_ok_iff] at accepted
    obtain ⟨_, ⟨blanks, blank, rfl⟩, same⟩ := accepted
    cases same
    exact ⟨0, blanks, [], .done blank, rfl⟩
  | cons member fields inductionHypothesis =>
    simp only [listMembers, bind_eq_ok_iff] at accepted
    obtain ⟨next, step, accepted⟩ := accepted
    cases next with
    | inr after =>
      obtain ⟨blanks, blank, rfl⟩ := nextItem_eq_inr_iff.mp step
      dsimp only at accepted
      split at accepted
      · cases accepted
      · cases accepted
        exact ⟨0, blanks, [], .done blank, rfl⟩
    | inl item =>
      simp only [bind_eq_ok_iff, Prod.exists] at accepted
      obtain ⟨change, middle, known, more⟩ := accepted
      obtain ⟨-, lead, leads, rfl⟩ := nextItem_eq_inl_iff.mp step
      obtain ⟨before, one, word, form, blank, writes, rfl⟩ :=
        (judged member List.mem_cons_self).written known
      obtain ⟨other, body, items, parts, rfl⟩ :=
        inductionHypothesis (fun member among => judged member (.tail _ among)) more
      exact ⟨max one other, _, _, writes.part (leads.append blank) parts, by simp⟩

/-! ## Records -/

/-- A record judges texts by walking through their forms. -/
theorem judges_read (judged : ∀ member ∈ record.members, JudgesForms member.read) :
    Judges record.read record.Accepts := by
  apply Judges.of_settles
  · intro before levels word rest form blank writes delimits
    by_cases isObject : ∃ entries, form = .object entries
    · obtain ⟨entries, rfl⟩ := isObject
      obtain ⟨inner, body, parts, rfl⟩ := writes.of_object
      have enough : body.length < (body ++ '\x7d' :: rest).length + 1 := by
        rw [List.length_append]
        omega
      have known := settles_objectMembers judged parts enough [] record.blank rest
      rw [read, skipBlank_append blank, List.cons_append, skipBlank_cons (by decide),
        List.append_assoc]
      refine known.congr fun value => ⟨fun accepts => ?_, .object⟩
      cases accepts with
      | object absorbs => exact absorbs
    by_cases isList : ∃ items, form = .list items
    · obtain ⟨items, rfl⟩ := isList
      obtain ⟨inner, body, parts, rfl⟩ := writes.of_list
      have known := settles_listMembers record judged parts (rfl : (0 == 0) = true)
        record.blank rest
      rw [read, skipBlank_append blank, List.cons_append, skipBlank_cons (by decide),
        List.append_assoc]
      refine known.congr fun value => ⟨fun accepts => ?_, .list⟩
      cases accepts with
      | list enlists => exact enlists
    · refine .error ?_ fun value accepts => ?_
      · refine refuses_of_opens (fun {head tail text} opens visible => ?_) blank writes delimits
        have notBrace : head ≠ '\x7b' := fun same => isObject (opens.kind.2.2.2 same)
        have notBracket : head ≠ '[' := fun same => isList (opens.kind.2.2.1 same)
        simp [read, visible, notBrace, notBracket]
      · cases accepts with
        | object absorbs => exact isObject ⟨_, rfl⟩
        | list enlists => exact isList ⟨_, rfl⟩
  · intro text value rest accepted
    unfold read at accepted
    split at accepted
    · cases accepted
    · next visible =>
      obtain ⟨levels, body, entries, parts, rfl⟩ := exists_of_objectMembers judged accepted
      obtain ⟨-, before, blank, rfl⟩ := skipBlank_eq_cons_iff.mp visible
      exact ⟨before, levels + 1, _, _, blank, .inr (.object parts), by simp⟩
    · next visible =>
      obtain ⟨levels, body, items, parts, rfl⟩ := exists_of_listMembers record judged accepted
      obtain ⟨-, before, blank, rfl⟩ := skipBlank_eq_cons_iff.mp visible
      exact ⟨before, levels + 1, _, _, blank, .inr (.list parts), by simp⟩
    · cases accepted

end Record

end NodeLookup.Json
