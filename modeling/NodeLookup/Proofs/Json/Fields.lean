import NodeLookup.Proofs.Json.Meaning

/-!
# What a member decides

`Form.member?` finds the value of a member in a form of its record, behind its key in an object and at its
place in a list, without reading anything. A member decides a part of the record if its value becomes that
part and no other member changes it (`Record.Decides`). Such a part is read off the form at one place:
`Decides.of_means` says that it is what stands there, or what the blank record has if nothing does.
-/

namespace NodeLookup.Json

/-- What a form of a record holds for a member: the value behind its key, or the item at its place. -/
def Form.member? (key : String) (place : Nat) : Form → Option Form
  | .object entries => said entries key
  | .list items => items[place]?
  | _ => none

section Members

variable {σ α β : Type} {part : σ → α}

/-- A member keeps a part of a record if none of its values changes it. -/
def Member.Keeps (member : Member σ) (part : σ → α) : Prop :=
  ∀ ⦃form change⦄, Reads member.read form change → ∀ value, part (change value) = part value

/-- A member keeps what is not changed by putting its value into the record. -/
theorem Member.keeps_of {read : Reader β} {key : String} {required : Bool} {put : β → σ → σ}
    (judges : JudgesForms read) (keeps : ∀ inner value, part (put inner value) = part value) :
    (Member.of key required read put).Keeps part := by
  intro form change reads value
  obtain ⟨inner, -, rfl⟩ := (judges_member judges key required put).reads_iff.mp reads
  exact keeps inner value

/-- So does what the member makes of what is said under its key. -/
theorem Member.Keeps.of_does {member : Member σ} (keeps : member.Keeps part) {stated : Option Form}
    {change : σ → σ} (does : member.Does stated change) (value : σ) : part (change value) = part value := by
  cases does with
  | nothing => rfl
  | change reads => exact keeps reads value

/-- A member makes nothing of nothing, and puts a value into the record that it is read as. -/
theorem Member.does_of_iff {read : Reader β} {key : String} {required : Bool} {put : β → σ → σ}
    (judges : JudgesForms read) {stated : Option Form} {change : σ → σ} :
    (Member.of key required read put).Does stated change ↔ (stated = none ∧ change = id) ∨
      ∃ form inner, stated = some form ∧ Reads read form inner ∧ change = put inner := by
  cases stated with
  | none => simp
  | some form => simp [(judges_member judges key required put).reads_iff]

/-- What a member makes of a record by what is said under its key. -/
def Member.Makes (member : Member σ) (stated : Option Form) (value result : σ) : Prop :=
  ∃ change, member.Does stated change ∧ result = change value

/-- A member leaves the record as it is, or puts into it what the value is read as. -/
theorem Member.makes_of_iff {read : Reader β} {key : String} {required : Bool} {put : β → σ → σ}
    (judges : JudgesForms read) {stated : Option Form} {value result : σ} :
    (Member.of key required read put).Makes stated value result ↔ (stated = none ∧ result = value) ∨
      ∃ form inner, stated = some form ∧ Reads read form inner ∧ result = put inner value := by
  simp only [Makes, does_of_iff judges]
  constructor
  · rintro ⟨_, ⟨absent, rfl⟩ | ⟨form, inner, stated, reads, rfl⟩, rfl⟩
    · exact .inl ⟨absent, rfl⟩
    · exact .inr ⟨form, inner, stated, reads, rfl⟩
  · rintro (⟨absent, rfl⟩ | ⟨form, inner, stated, reads, rfl⟩)
    · exact ⟨_, .inl ⟨absent, rfl⟩, rfl⟩
    · exact ⟨_, .inr ⟨form, inner, stated, reads, rfl⟩, rfl⟩

/-- Members are gathered one behind the other. -/
theorem gathers_cons_iff_makes {entries : List (Option String × Form)} {member : Member σ}
    {fields : List (Member σ)} {value result : σ} :
    Gathers entries (member :: fields) value result ↔
      ∃ middle, member.Makes (said entries member.key) value middle ∧
        Gathers entries fields middle result := by
  rw [gathers_cons_iff]
  constructor
  · rintro ⟨change, does, more⟩
    exact ⟨_, ⟨change, does, rfl⟩, more⟩
  · rintro ⟨_, ⟨change, does, rfl⟩, more⟩
    exact ⟨change, does, more⟩

/-- What all members keep is kept when they are gathered. -/
theorem Gathers.keeps {entries : List (Option String × Form)} {fields : List (Member σ)} {value result : σ}
    (gathers : Gathers entries fields value result) (keeps : ∀ field ∈ fields, field.Keeps part) :
    part result = part value := by
  induction gathers with
  | nil => rfl
  | cons does more inductionHypothesis =>
    rw [inductionHypothesis fun field behind => keeps field (.tail _ behind)]
    exact (keeps _ List.mem_cons_self).of_does does _

/-- What one member puts into the record and the others keep is found in the record. -/
theorem Gathers.part_eq {read : Reader α} {key : String} {required : Bool} {put : α → σ → σ}
    {entries : List (Option String × Form)} {fields : List (Member σ)} {value result : σ}
    (gathers : Gathers entries fields value result) (apart : fields.Pairwise Member.Apart)
    (among : Member.of key required read put ∈ fields) (judges : JudgesForms read)
    (puts : ∀ inner value, part (put inner value) = inner)
    (keeps : ∀ field ∈ fields, field.key ≠ key → field.Keeps part) :
    (said entries key = none ∧ part result = part value) ∨
      ∃ form, said entries key = some form ∧ Reads read form (part result) := by
  induction gathers with
  | nil => cases among
  | @cons head fields value result change does more inductionHypothesis =>
    obtain ⟨apartHead, apartFields⟩ := List.pairwise_cons.mp apart
    rcases List.mem_cons.mp among with rfl | among
    · have kept : part result = part (change value) := more.keeps fun field behind =>
        keeps field (.tail _ behind) (apartHead field behind).keys.symm
      rw [kept]
      rcases (Member.does_of_iff judges).mp does with ⟨absent, rfl⟩ | ⟨form, inner, stated, reads, rfl⟩
      · exact .inl ⟨absent, rfl⟩
      · exact .inr ⟨form, stated, by rwa [puts]⟩
    · have keepsHead : part (change value) = part value :=
        (keeps head List.mem_cons_self (apartHead _ among).keys).of_does does value
      rw [← keepsHead]
      exact inductionHypothesis apartFields among fun field behind => keeps field (.tail _ behind)

/-- What a list holds under the key of a member is the item at its place. -/
theorem said_zip_eq_getElem? {fields : List (Member σ)} (apart : fields.Pairwise Member.Apart)
    {key : String} {place : Nat} (position : fields[place]?.map (·.key) = some key) (items : List Form) :
    said ((fields.map fun field => some field.key).zip items) key = items[place]? := by
  induction fields generalizing place items with
  | nil => simp at position
  | cons head fields inductionHypothesis =>
    obtain ⟨apartHead, apartFields⟩ := List.pairwise_cons.mp apart
    cases items with
    | nil => rfl
    | cons item items =>
      rw [List.map_cons, List.zip_cons_cons]
      cases place with
      | zero =>
        obtain rfl : head.key = key := by simpa using position
        rw [said_cons_self, List.getElem?_cons_zero]
      | succ place =>
        rw [List.getElem?_cons_succ] at position
        obtain ⟨field, found, same⟩ := Option.map_eq_some_iff.mp position
        have other : some head.key ≠ some key := by
          rw [← same]
          exact fun equal => (apartHead field (List.mem_of_getElem? found)).keys (Option.some.inj equal)
        rw [said_cons_of_ne other, List.getElem?_cons_succ]
        exact inductionHypothesis apartFields position items

end Members

namespace Record

variable {σ α : Type} {record : Record σ} {key : String} {place : Nat} {form : Form} {value : σ}

/-- What a form tells a record under a key is what it holds for the member with the key. -/
theorem Tells.said_eq_member? (lawful : record.Lawful)
    (position : record.members[place]?.map (·.key) = some key) {entries : List (Option String × Form)}
    (tells : record.Tells form entries) : said entries key = form.member? key place := by
  cases tells with
  | object texts once => rfl
  | @list items fits => exact said_zip_eq_getElem? lawful.apart position items

/-- The member with a key, which has its place among the members, decides a part of the record: its value
becomes the part, which the other members keep. -/
structure Decides (record : Record σ) (key : String) (place : Nat) (read : Reader α) (part : σ → α) :
    Prop where
  position : record.members[place]?.map (·.key) = some key
  puts : ∃ required put, Member.of key required read put ∈ record.members ∧
    ∀ inner value, part (put inner value) = inner
  keeps : ∀ field ∈ record.members, field.key ≠ key → field.Keeps part

/-- The part that a member decides is what the form holds for it, or that of the blank record if the form
holds nothing. -/
theorem Decides.of_means {read : Reader α} {part : σ → α} (decides : record.Decides key place read part)
    (lawful : record.Lawful) (judges : JudgesForms read) (means : record.Means form value) :
    (form.member? key place = none ∧ part value = part record.blank) ∨
      ∃ inner, form.member? key place = some inner ∧ Reads read inner (part value) := by
  obtain ⟨required, put, among, puts⟩ := decides.puts
  obtain ⟨entries, tells, -, gathers⟩ := means
  rw [← tells.said_eq_member? lawful decides.position]
  exact gathers.part_eq lawful.apart among judges puts decides.keeps

/-- A text that a member decides is the one that the form holds for it, or that of the blank record if the form
holds nothing. -/
theorem Decides.of_means_text {part : σ → String} (decides : record.Decides key place stringValue part)
    (lawful : record.Lawful) (means : record.Means form value) :
    (form.member? key place = none ∧ part value = part record.blank) ∨
      form.member? key place = some (.string (some (part value))) := by
  obtain absent | ⟨inner, stated, reads⟩ := decides.of_means lawful judges_stringValue.judgesForms means
  · exact .inl absent
  · rw [stated, judges_stringValue.reads_iff.mp reads]
    exact .inr rfl

/-- A form holds something for every required member. -/
theorem Means.member?_ne_none (lawful : record.Lawful) {member : Member σ}
    (among : member ∈ record.members) (required : member.required)
    (position : record.members[place]?.map (·.key) = some member.key) (means : record.Means form value) :
    form.member? member.key place ≠ none := by
  obtain ⟨entries, tells, complete, -⟩ := means
  rw [← tells.said_eq_member? lawful position]
  exact complete member among required

end Record

end NodeLookup.Json
