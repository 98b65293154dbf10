import NodeLookup.Proofs.Json.Meaning

/-!
# Rewriting the form of a record

One record can be presented in many ways: its members in any order and with unknown ones among them,
defaults written out or left out, and the whole as an object or as a list. `Record.Rewrites` has a case for
each step from one presentation to another, and `Rewrites.means` is that no step changes what a form
means. All cases come down to one: a form may be replaced by one that states the same under every key of
the record, where a default is as good as nothing (`Retells.means`).

`Record.Holds` says where the value of a member stands in a form of the record, `Holds.exists_change` what
the value does to the record and what may stand in its place. The last section is about forms that mean
nothing at all.
-/

namespace NodeLookup.Json

namespace Record

variable {σ : Type} (record : Record σ)

/-! ## Replacing -/

/-- A form is a default of a member if it is read as no change to the blank record. -/
def IsDefault (member : Member σ) (form : Form) : Prop :=
  ∃ change, Reads member.read form change ∧ change record.blank = record.blank

/-- What is said under a key may be replaced by what makes the same change, or by one default for
another, but not by nothing if the record requires the member. -/
structure Replaces (member : Member σ) (one other : Option Form) : Prop where
  changes : ∀ ⦃change⦄, member.Does one change → ∃ next, member.Does other next ∧
    (next = change ∨ change record.blank = record.blank ∧ next record.blank = record.blank)
  keeps : member.required → one ≠ none → other ≠ none

/-- A form is told in other words if everything that is said under a key of the record is replaced. -/
def Retells (form other : Form) : Prop :=
  ∀ ⦃entries⦄, record.Tells form entries → ∃ others, record.Tells other others ∧
    ∀ member ∈ record.members, record.Replaces member (said entries member.key) (said others member.key)

section Replacing

variable {record} {member : Member σ} {form : Form} {one other : Option Form}

/-- Nothing has to be replaced. -/
theorem Replaces.of_eq (same : one = other) : record.Replaces member one other where
  changes change does := ⟨change, same ▸ does, .inl rfl⟩
  keeps _ present := same ▸ present

/-- A default is as good as nothing. -/
theorem IsDefault.replaces_none (isDefault : record.IsDefault member form)
    (optional : member.required = false) : record.Replaces member (some form) none where
  changes change does := by
    obtain ⟨blank, reads, same⟩ := isDefault
    cases Judges.reads_unique (Member.does_some_iff.mp does) reads
    exact ⟨id, .nothing, .inr ⟨same, rfl⟩⟩
  keeps required := by simp [optional] at required

/-- Nothing is as good as a default. -/
theorem IsDefault.none_replaces (isDefault : record.IsDefault member form) :
    record.Replaces member none (some form) where
  changes change does := by
    obtain ⟨blank, reads, same⟩ := isDefault
    cases does
    exact ⟨blank, .change reads, .inr ⟨rfl, same⟩⟩
  keeps _ present := absurd rfl present

/-- A form may be replaced by one that is read the same. -/
theorem Replaces.of_reads {form other : Form}
    (reads : ∀ change, Reads member.read form change → Reads member.read other change) :
    record.Replaces member (some form) (some other) where
  changes change does := ⟨change, .change (reads change (Member.does_some_iff.mp does)), .inl rfl⟩
  keeps _ _ := nofun

/-- A default is what means a value that is put into the blank record already. -/
theorem isDefault_of_iff {α : Type} {read : Reader α} {means : Form → α → Prop} (judges : Judges read means)
    {key : String} {required : Bool} {put : α → σ → σ} :
    record.IsDefault (.of key required read put) form ↔
      ∃ value, means form value ∧ put value record.blank = record.blank := by
  simp only [IsDefault, (judges_member judges key required put).reads_iff]
  constructor
  · rintro ⟨_, ⟨value, meant, rfl⟩, same⟩
    exact ⟨value, meant, same⟩
  · rintro ⟨value, meant, same⟩
    exact ⟨_, ⟨value, meant, rfl⟩, same⟩

/-- Members gather the same record from what is replaced. -/
theorem gathers_of_replaces {entries others : List (Option String × Form)} {fields : List (Member σ)}
    {value result : σ} (gathers : Gathers entries fields value result)
    (apart : fields.Pairwise Member.Apart)
    (replaces : ∀ member ∈ fields,
      record.Replaces member (said entries member.key) (said others member.key))
    (settled : ∀ member ∈ fields, ∀ ⦃stated change⦄, member.Does stated change →
      change record.blank = record.blank → change value = value) :
    Gathers others fields value result := by
  -- The invariant of the induction is `settled`: what does not change the blank record does not
  -- change the record gathered so far either, because all changes made to it are those of other members.
  induction gathers with
  | nil => exact .nil
  | @cons member fields value result change does more inductionHypothesis =>
    obtain ⟨apartMember, apartFields⟩ := List.pairwise_cons.mp apart
    obtain ⟨next, doesNext, same⟩ := (replaces member List.mem_cons_self).changes does
    have outcome : next value = change value := by
      rcases same with rfl | ⟨blank, blankNext⟩
      · rfl
      · rw [settled member List.mem_cons_self does blank,
          settled member List.mem_cons_self doesNext blankNext]
    refine .cons doesNext ?_
    rw [outcome]
    refine inductionHypothesis apartFields (fun field among => replaces field (.tail _ among)) ?_
    intro field among stated later doesLater blank
    rw [← (apartMember field among).does does doesLater value,
      settled field (.tail _ among) doesLater blank]

/-- A form that is told in other words means the same. -/
theorem Retells.means (lawful : record.Lawful) {form other : Form} (retells : record.Retells form other)
    {value : σ} (means : record.Means form value) : record.Means other value := by
  obtain ⟨entries, tells, complete, gathers⟩ := means
  obtain ⟨others, tellsOther, replaces⟩ := retells tells
  refine ⟨others, tellsOther, ?_, ?_⟩
  · exact fun member among required =>
      (replaces member among).keeps required (complete member among required)
  · exact gathers_of_replaces gathers lawful.apart replaces fun _ _ _ _ _ blank => blank

end Replacing

/-! ## Rewriting -/

/-- Items list what an object says to a record: one item for each of some members, in the order of the
record, where a default stands for a member that is absent; the other members are absent or defaults. -/
def Lists (entries : List (Option String × Form)) (items : List Form) : Prop :=
  ∃ written omitted, record.members = written ++ omitted ∧
    List.Forall₂ (fun member item => said entries member.key = some item ∨
      said entries member.key = none ∧ record.IsDefault member item) written items ∧
    ∀ member ∈ omitted, member.required = false ∧
      ∀ form, said entries member.key = some form → record.IsDefault member form

/-- One step from one presentation of a record to another. -/
inductive Rewrites : Form → Form → Prop where
  | permuted {entries others : List (Option String × Form)} (permutation : entries.Perm others) :
      Rewrites (.object entries) (.object others)
  | inserted {before after : List (Option String × Form)} {key : String} {form : Form}
      (unknown : record.find? key = none) :
      Rewrites (.object (before ++ after)) (.object (before ++ (some key, form) :: after))
  | removed {before after : List (Option String × Form)} {member : Member σ} {form : Form}
      (among : member ∈ record.members) (optional : member.required = false)
      (isDefault : record.IsDefault member form) :
      Rewrites (.object (before ++ (some member.key, form) :: after)) (.object (before ++ after))
  | added {before after : List (Option String × Form)} {member : Member σ} {form : Form}
      (among : member ∈ record.members) (absent : said (before ++ after) member.key = none)
      (isDefault : record.IsDefault member form) :
      Rewrites (.object (before ++ after)) (.object (before ++ (some member.key, form) :: after))
  | listed {entries : List (Option String × Form)} {items : List Form}
      (lists : record.Lists entries items) : Rewrites (.object entries) (.list items)

section Rewriting

variable {record} {entries others before after : List (Option String × Form)} {key : String} {form : Form}

/-- What is said under a known key is what the only member with the key says. -/
theorem said_eq_some_iff {member : Member σ} (known : record.find? key = some member)
    (once : (record.knownKeys entries).Nodup) : said entries key = some form ↔ (some key, form) ∈ entries := by
  constructor
  · exact mem_of_said
  · intro among
    obtain ⟨before, after, rfl⟩ := List.append_of_mem among
    apply said_append_self
    rw [knownKeys_append, knownKeys_known known, List.nodup_append] at once
    refine (not_mem_knownKeys_iff known).mp fun among => ?_
    exact once.2.2 key among key List.mem_cons_self rfl

/-- An object tells its members and nothing else. -/
theorem tells_object_iff : record.Tells (.object entries) others ↔
    others = entries ∧ (∀ entry ∈ entries, entry.1 ≠ none) ∧ (record.knownKeys entries).Nodup := by
  constructor
  · intro tells
    cases tells with
    | object texts once => exact ⟨rfl, texts, once⟩
  · rintro ⟨rfl, texts, once⟩
    exact .object texts once

/-- An unknown member does not keep an object from telling its members. -/
theorem tells_unknown_iff (unknown : record.find? key = none) :
    record.Tells (.object (before ++ (some key, form) :: after)) (before ++ (some key, form) :: after) ↔
      record.Tells (.object (before ++ after)) (before ++ after) := by
  have same : record.knownKeys (before ++ (some key, form) :: after) =
      record.knownKeys (before ++ after) := by
    rw [knownKeys_append, knownKeys_unknown unknown, knownKeys_append]
  simp [tells_object_iff, same, or_imp, forall_and]

/-- A known member may stand in an object exactly if no other member has its key. -/
theorem tells_known_iff {member : Member σ} (known : record.find? key = some member) :
    record.Tells (.object (before ++ (some key, form) :: after)) (before ++ (some key, form) :: after) ↔
      record.Tells (.object (before ++ after)) (before ++ after) ∧ said (before ++ after) key = none := by
  have middle : (record.knownKeys (before ++ (some key, form) :: after)).Perm
      (key :: record.knownKeys (before ++ after)) := by
    rw [knownKeys_append, knownKeys_known known, knownKeys_append]
    exact List.perm_middle
  rw [tells_object_iff, tells_object_iff, middle.nodup_iff, List.nodup_cons,
    not_mem_knownKeys_iff known]
  simp only [true_and, List.forall_mem_append, List.forall_mem_cons, ne_eq, reduceCtorEq,
    not_false_eq_true]
  tauto

/-- The order of the members does not matter. -/
theorem retells_permuted (lawful : record.Lawful) (permutation : entries.Perm others) :
    record.Retells (.object entries) (.object others) := by
  rintro _ ⟨texts, once⟩
  have onceOther : (record.knownKeys others).Nodup := (permutation.filterMap _).nodup_iff.mp once
  refine ⟨others, .object (fun entry among => texts entry (permutation.mem_iff.mpr among)) onceOther, ?_⟩
  intro member among
  have known := lawful.find?_key among
  refine .of_eq (Option.ext fun form => ?_)
  rw [said_eq_some_iff known once, said_eq_some_iff known onceOther, permutation.mem_iff]

/-- An unknown member does not matter. -/
theorem retells_inserted (unknown : record.find? key = none) :
    record.Retells (.object (before ++ after)) (.object (before ++ (some key, form) :: after)) := by
  intro entries tells
  obtain ⟨rfl, -⟩ := tells_object_iff.mp tells
  refine ⟨_, (tells_unknown_iff unknown).mpr tells, fun member among => .of_eq ?_⟩
  rw [said_append_of_ne (key_ne_of_unknown unknown among)]

/-- A default that is left out does not matter. -/
theorem retells_removed (lawful : record.Lawful) {member : Member σ} (among : member ∈ record.members)
    (optional : member.required = false) (isDefault : record.IsDefault member form) :
    record.Retells (.object (before ++ (some member.key, form) :: after))
      (.object (before ++ after)) := by
  intro entries tells
  obtain ⟨rfl, -⟩ := tells_object_iff.mp tells
  obtain ⟨others, absent⟩ := (tells_known_iff (lawful.find?_key among)).mp tells
  refine ⟨_, others, fun field amongFields => ?_⟩
  by_cases same : field.key = member.key
  · obtain rfl := lawful.eq_of_key amongFields among same
    rw [absent, said_append_self (said_append_eq_none_iff.mp absent).1]
    exact isDefault.replaces_none optional
  · exact .of_eq (said_append_of_ne fun equal => same (Option.some.inj equal).symm)

/-- A default that is written out does not matter. -/
theorem retells_added (lawful : record.Lawful) {member : Member σ} (among : member ∈ record.members)
    (absent : said (before ++ after) member.key = none) (isDefault : record.IsDefault member form) :
    record.Retells (.object (before ++ after))
      (.object (before ++ (some member.key, form) :: after)) := by
  intro entries tells
  obtain ⟨rfl, -⟩ := tells_object_iff.mp tells
  refine ⟨_, (tells_known_iff (lawful.find?_key among)).mpr ⟨tells, absent⟩, fun field amongFields => ?_⟩
  by_cases same : field.key = member.key
  · obtain rfl := lawful.eq_of_key amongFields among same
    rw [absent, said_append_self (said_append_eq_none_iff.mp absent).1]
    exact isDefault.none_replaces
  · exact .of_eq (said_append_of_ne fun equal => same (Option.some.inj equal).symm).symm

/-- What items list is said under the keys of the members for which they stand. -/
theorem said_zip_of_forall₂ {means : Member σ → Form → Prop} {fields : List (Member σ)}
    {items : List Form} (stand : List.Forall₂ means fields items)
    (apart : fields.Pairwise Member.Apart) {member : Member σ} (among : member ∈ fields) :
    ∃ item, means member item ∧
      said ((fields.map fun member => some member.key).zip items) member.key = some item := by
  induction stand with
  | nil => cases among
  | @cons head item fields items stands more inductionHypothesis =>
    obtain ⟨apartHead, apartFields⟩ := List.pairwise_cons.mp apart
    rcases List.mem_cons.mp among with rfl | among
    · exact ⟨item, stands, said_cons_self⟩
    · obtain ⟨other, standsOther, stated⟩ := inductionHypothesis apartFields among
      refine ⟨other, standsOther, ?_⟩
      rw [List.map_cons, List.zip_cons_cons,
        said_cons_of_ne fun same => (apartHead member among).keys (Option.some.inj same)]
      exact stated

/-- Nothing is said under a key that is not listed. -/
theorem said_zip_of_not_mem {fields : List (Member σ)} {items : List Form}
    (absent : ∀ field ∈ fields, field.key ≠ key) :
    said ((fields.map fun member => some member.key).zip items) key = none := by
  refine said_eq_none_iff.mpr fun form among => ?_
  obtain ⟨field, amongFields, same⟩ := List.mem_map.mp (List.of_mem_zip among).1
  exact absent field amongFields (Option.some.inj same)

/-- A list may be written for an object. -/
theorem retells_listed (lawful : record.Lawful) {items : List Form} (lists : record.Lists entries items) :
    record.Retells (.object entries) (.list items) := by
  intro others tells
  obtain ⟨rfl, -⟩ := tells_object_iff.mp tells
  obtain ⟨written, omitted, split, stand, optional⟩ := lists
  have sameLength := stand.length_eq
  have fits : items.length ≤ record.members.length := by
    rw [split, List.length_append, sameLength]
    exact Nat.le_add_right _ _
  have labels : record.labelled items = (written.map fun member => some member.key).zip items := by
    have sameLabels : (written.map fun member => some member.key).length = items.length := by
      rw [List.length_map, sameLength]
    have none : items = items ++ [] := (List.append_nil items).symm
    rw [labelled, split, List.map_append, none, List.zip_append sameLabels, List.zip_nil_right,
      List.append_nil, List.append_nil]
  have apart := lawful.apart
  rw [split, List.pairwise_append] at apart
  refine ⟨_, .list fits, fun member among => ?_⟩
  rw [labels]
  rw [split, List.mem_append] at among
  rcases among with among | among
  · obtain ⟨item, stated | ⟨absent, isDefault⟩, listed⟩ := said_zip_of_forall₂ stand apart.1 among
    · exact .of_eq (stated.trans listed.symm)
    · rw [absent, listed]
      exact isDefault.none_replaces
  · rw [said_zip_of_not_mem fun field amongWritten => (apart.2.2 field amongWritten member among).keys]
    cases stated : said others member.key with
    | none => exact .of_eq rfl
    | some form => exact ((optional member among).2 form stated).replaces_none (optional member among).1

/-- No step of rewriting changes what a form means to a lawful record. -/
theorem Rewrites.means (lawful : record.Lawful) {form other : Form}
    (rewrites : record.Rewrites form other) {value : σ} (means : record.Means form value) :
    record.Means other value := by
  refine Retells.means lawful ?_ means
  cases rewrites with
  | permuted permutation => exact retells_permuted lawful permutation
  | inserted unknown => exact retells_inserted unknown
  | removed among optional isDefault => exact retells_removed lawful among optional isDefault
  | added among absent isDefault => exact retells_added lawful among absent isDefault
  | listed lists => exact retells_listed lawful lists

end Rewriting

/-! ## What a record holds -/

/-- Where the value of a member stands in a form: behind its key in an object, or at its place in a
list. -/
inductive Holds (key : String) : (Form → Form) → Prop where
  | member {before after : List (Option String × Form)} :
      Holds key fun value => .object (before ++ (some key, value) :: after)
  | item {earlier later : List Form}
      (position : record.members[earlier.length]?.map (·.key) = some key) :
      Holds key fun value => .list (earlier ++ value :: later)

section Holding

variable {record} {member : Member σ} {place : Form → Form} {part other : Form} {value : σ}

/-- What holds a value is no null. -/
theorem Holds.ne_null {key : String} (holds : record.Holds key place) : place part ≠ .null := by
  cases holds <;> exact nofun

/-- The place of a member parts the others, none of which has its key. -/
theorem Lawful.exists_split (lawful : record.Lawful) (among : member ∈ record.members) {index : Nat}
    (position : record.members[index]?.map (·.key) = some member.key) :
    ∃ before after, record.members = before ++ member :: after ∧ before.length = index ∧
      (∀ field ∈ before, field.key ≠ member.key) ∧ ∀ field ∈ after, field.key ≠ member.key := by
  obtain ⟨field, found, same⟩ := Option.map_eq_some_iff.mp position
  obtain rfl := lawful.eq_of_key (List.mem_of_getElem? found) among same
  obtain ⟨inside, here⟩ := List.getElem?_eq_some_iff.mp found
  have split : record.members = record.members.take index ++ field :: record.members.drop (index + 1) := by
    rw [← here, ← List.drop_eq_getElem_cons inside, List.take_append_drop]
  have apart := lawful.apart
  rw [split, List.pairwise_append, List.pairwise_cons] at apart
  refine ⟨_, _, split, List.length_take_of_le (Nat.le_of_lt inside), ?_, ?_⟩
  · exact fun other before => (apart.2.2 other before field List.mem_cons_self).keys
  · exact fun other after => (apart.2.1.1 other after).keys.symm

/-- A form that holds a value tells it under its key, and anything else in its place as well. -/
theorem Holds.tells (lawful : record.Lawful) (among : member ∈ record.members)
    (holds : record.Holds member.key place) {entries : List (Option String × Form)}
    (tells : record.Tells (place part) entries) :
    ∃ before after, entries = before ++ (some member.key, part) :: after ∧
      said (before ++ after) member.key = none ∧
      ∀ other, record.Tells (place other) (before ++ (some member.key, other) :: after) := by
  cases holds with
  | @member before after =>
    have known := lawful.find?_key among
    obtain ⟨rfl, -⟩ := tells_object_iff.mp tells
    have parts := (tells_known_iff known).mp tells
    exact ⟨before, after, rfl, parts.2, fun other => (tells_known_iff known).mpr parts⟩
  | @item earlier later position =>
    obtain ⟨before, after, split, sameLength, apartBefore, apartAfter⟩ :=
      lawful.exists_split among position
    have sameLabels : (before.map fun field => some field.key).length = earlier.length := by
      rw [List.length_map, sameLength]
    have labels : ∀ other, record.labelled (earlier ++ other :: later) =
        (before.map fun field => some field.key).zip earlier ++ (some member.key, other) ::
          (after.map fun field => some field.key).zip later := by
      intro other
      rw [labelled, split, List.map_append, List.zip_append sameLabels, List.map_cons,
        List.zip_cons_cons]
    cases tells with
    | list fits =>
      refine ⟨_, _, labels part, ?_, fun other => ?_⟩
      · exact said_append_eq_none_iff.mpr ⟨said_zip_of_not_mem apartBefore, said_zip_of_not_mem apartAfter⟩
      · rw [← labels other]
        exact .list (by simpa using fits)

/-- A change that can be made in front of others can be made behind them. -/
theorem exists_of_gathers {entries : List (Option String × Form)} {fields : List (Member σ)}
    {change : σ → σ} {result : σ} (gathers : Gathers entries fields (change value) result)
    (commutes : ∀ field ∈ fields, ∀ ⦃stated next⦄, field.Does stated next →
      ∀ value, change (next value) = next (change value)) : ∃ other, result = change other := by
  induction fields generalizing value with
  | nil => exact ⟨value, gathers_nil_iff.mp gathers⟩
  | cons field fields inductionHypothesis =>
    obtain ⟨next, does, more⟩ := gathers_cons_iff.mp gathers
    rw [← commutes field List.mem_cons_self does] at more
    exact inductionHypothesis more fun field among => commutes field (.tail _ among)

/-- Every member makes its change, and may make it last. -/
theorem exists_change_of_gathers {entries : List (Option String × Form)} {fields : List (Member σ)}
    {result : σ} (gathers : Gathers entries fields value result) (apart : fields.Pairwise Member.Apart)
    (among : member ∈ fields) :
    ∃ change other, member.Does (said entries member.key) change ∧ result = change other := by
  induction gathers with
  | nil => cases among
  | @cons head fields value result change does more inductionHypothesis =>
    obtain ⟨apartHead, apartFields⟩ := List.pairwise_cons.mp apart
    rcases List.mem_cons.mp among with rfl | among
    · obtain ⟨other, same⟩ := exists_of_gathers more fun field behind _ _ doesNext =>
        (apartHead field behind).does does doesNext
      exact ⟨change, other, does, same⟩
    · exact inductionHypothesis apartFields among

/-- The value that a form holds makes its change to the record, and what makes the same change may stand
in its place. -/
theorem Holds.exists_change (lawful : record.Lawful) (among : member ∈ record.members)
    (holds : record.Holds member.key place) (means : record.Means (place part) value) :
    ∃ change prior, Reads member.read part change ∧ value = change prior ∧
      ∀ other, Reads member.read other change → record.Means (place other) value := by
  obtain ⟨entries, tells, -, gathers⟩ := id means
  obtain ⟨before, after, rfl, absent, -⟩ := holds.tells lawful among tells
  obtain ⟨change, prior, does, same⟩ := exists_change_of_gathers gathers lawful.apart among
  have silent := (said_append_eq_none_iff.mp absent).1
  rw [said_append_self silent, Member.does_some_iff] at does
  refine ⟨change, prior, does, same, fun other reads => ?_⟩
  refine Retells.means lawful (fun entries tells => ?_) means
  obtain ⟨before, after, rfl, absent, elsewhere⟩ := holds.tells lawful among tells
  refine ⟨_, elsewhere other, fun field amongFields => ?_⟩
  by_cases same : field.key = member.key
  · obtain rfl := lawful.eq_of_key amongFields among same
    have silent := (said_append_eq_none_iff.mp absent).1
    rw [said_append_self silent, said_append_self silent]
    refine .of_reads fun next readsNext => ?_
    rwa [Judges.reads_unique readsNext does]
  · have label : some member.key ≠ some field.key := fun equal => same (Option.some.inj equal).symm
    exact .of_eq (by rw [said_append_of_ne label, said_append_of_ne label])

/-- A value that a form holds is read and put into the record, and what is read the same may stand in its
place. -/
theorem Holds.exists_put {α : Type} {read : Reader α} {key : String} {required : Bool} {put : α → σ → σ}
    (lawful : record.Lawful) (among : Member.of key required read put ∈ record.members)
    (judges : JudgesForms read) (holds : record.Holds key place)
    (means : record.Means (place part) value) :
    ∃ inner prior, Reads read part inner ∧ value = put inner prior ∧
      ∀ other, Reads read other inner → record.Means (place other) value := by
  have judgesMember := judges_member judges key required put
  obtain ⟨change, prior, reads, same, elsewhere⟩ := holds.exists_change lawful among means
  obtain ⟨inner, readsInner, rfl⟩ := judgesMember.reads_iff.mp reads
  exact ⟨inner, prior, readsInner, same, fun other readsOther =>
    elsewhere other (judgesMember.reads ⟨inner, readsOther, rfl⟩)⟩

end Holding

/-! ## What means nothing -/

section Faults

variable {record} {member : Member σ} {entries before between after : List (Option String × Form)}
  {one other : Form} {items : List Form} {value : σ}

/-- An object that repeats a known member means nothing. -/
theorem not_means_of_repeated (lawful : record.Lawful) (among : member ∈ record.members) :
    ¬record.Means (.object (before ++ (some member.key, one) ::
      (between ++ (some member.key, other) :: after))) value := by
  rintro ⟨entries, tells, -⟩
  obtain ⟨rfl, -⟩ := tells_object_iff.mp tells
  have silent := ((tells_known_iff (lawful.find?_key among)).mp tells).2
  exact said_eq_none_iff.mp silent other (by simp)

/-- An object without a required member means nothing. -/
theorem not_means_of_missing (among : member ∈ record.members) (required : member.required)
    (absent : ∀ form, (some member.key, form) ∉ entries) : ¬record.Means (.object entries) value := by
  rintro ⟨others, tells, complete, -⟩
  obtain ⟨rfl, -⟩ := tells_object_iff.mp tells
  exact complete member among required (said_eq_none_iff.mpr absent)

/-- Neither does a list that ends in front of one. -/
theorem not_means_of_short (lawful : record.Lawful) (among : member ∈ record.members)
    (required : member.required) {index : Nat}
    (position : record.members[index]?.map (·.key) = some member.key) (short : items.length ≤ index) :
    ¬record.Means (.list items) value := by
  rintro ⟨others, tells, complete, -⟩
  obtain ⟨first, last, split, rfl, apartFirst, -⟩ := lawful.exists_split among position
  cases tells
  refine complete member among required (said_eq_none_iff.mpr fun form listed => ?_)
  rw [labelled, List.zip_eq_zip_take_min] at listed
  have label := (List.of_mem_zip listed).1
  have reached : min (record.members.map fun field => some field.key).length items.length ≤
      (first.map fun field => some field.key).length :=
    (Nat.min_le_right _ _).trans (by simpa using short)
  rw [split, List.map_append] at label reached
  rw [List.take_append_of_le_length reached] at label
  obtain ⟨field, amongFirst, same⟩ := List.mem_map.mp (List.mem_of_mem_take label)
  exact apartFirst field amongFirst (Option.some.inj same)

end Faults

end Record

end NodeLookup.Json
