import Mathlib.Data.List.Nodup
import NodeLookup.Proofs.Json.Walking

/-!
# What the form of a record means

A record cares about what an object says under each of its keys, and about nothing else: not about the
order of the members, nor about keys that it does not know. `Record.Means` says so without any walk. Each
member of the record, in the order of the record, makes the change that is said under its key; a list says
its items under the keys in their order. `Record.judges_means` is that the reader of a lawful record reads
exactly what its form means, where a record is lawful if its members have distinct keys, their readers
judge texts by their forms, and changes of different members can be made in any order.
-/

namespace NodeLookup.Json

/-! ## What is said -/

/-- What an object says under a key. -/
def said (entries : List (Option String × Form)) (key : String) : Option Form := entries.lookup (some key)

section Said

variable {entries before after : List (Option String × Form)} {key : String} {label : Option String}
  {form : Form}

/-- What the first member says is said under its key. -/
@[simp] theorem said_cons_self : said ((some key, form) :: entries) key = some form := by
  simp [said]

/-- It is not said under any other key. -/
theorem said_cons_of_ne (other : label ≠ some key) : said ((label, form) :: entries) key = said entries key := by
  have apart : (some key == label) = false := by simpa using fun same => other same.symm
  simp [said, List.lookup_cons, apart]

/-- A member changes nothing under other keys than its own. -/
theorem said_append_of_ne (other : label ≠ some key) :
    said (before ++ (label, form) :: after) key = said (before ++ after) key := by
  have behind : said ((label, form) :: after) key = said after key := said_cons_of_ne other
  unfold said at behind ⊢
  rw [List.lookup_append, List.lookup_append, behind]

/-- Nothing is said under a key exactly if no member has it. -/
theorem said_eq_none_iff : said entries key = none ↔ ∀ form, (some key, form) ∉ entries := by
  simp only [said, List.lookup_eq_none_iff, bne_iff_ne, ne_eq, Prod.forall]
  constructor
  · intro absent form member
    exact absent _ form member rfl
  · rintro absent _ form member rfl
    exact absent form member

/-- Behind members with other keys, a member says what is said under its key. -/
theorem said_append_self (absent : said before key = none) :
    said (before ++ (some key, form) :: after) key = some form := by
  have here : said ((some key, form) :: after) key = some form := said_cons_self
  unfold said at absent here ⊢
  rw [List.lookup_append, absent, here]
  rfl

/-- Nothing is said exactly if neither of two parts says anything. -/
theorem said_append_eq_none_iff :
    said (before ++ after) key = none ↔ said before key = none ∧ said after key = none := by
  unfold said
  rw [List.lookup_append, Option.or_eq_none_iff]

/-- What is said is among the members. -/
theorem mem_of_said (stated : said entries key = some form) : (some key, form) ∈ entries := by
  obtain ⟨before, after, rfl, -⟩ := List.lookup_eq_some_iff.mp stated
  simp

end Said

/-! ## Changes -/

section Changes

variable {σ : Type}

/-- What a member makes of what is said under its key. -/
inductive Member.Does (member : Member σ) : Option Form → (σ → σ) → Prop where
  | nothing : member.Does none id
  | change {form : Form} {change : σ → σ} (reads : Reads member.read form change) :
      member.Does (some form) change

/-- Of nothing, only nothing is made. -/
@[simp] theorem Member.does_none_iff {member : Member σ} {change : σ → σ} :
    member.Does none change ↔ change = id := by
  constructor
  · intro does
    cases does
    rfl
  · rintro rfl
    exact .nothing

/-- Of a value, only what it is read as is made. -/
@[simp] theorem Member.does_some_iff {member : Member σ} {form : Form} {change : σ → σ} :
    member.Does (some form) change ↔ Reads member.read form change := by
  constructor
  · intro does
    cases does with
    | change reads => exact reads
  · exact .change

/-- Two members are apart if they have different keys and their changes can be made in any order. -/
structure Member.Apart (first second : Member σ) : Prop where
  keys : first.key ≠ second.key
  commutes : ∀ ⦃one other : Form⦄ ⦃change next : σ → σ⦄, Reads first.read one change →
    Reads second.read other next → ∀ value, change (next value) = next (change value)

/-- So can what members make of what is said. -/
theorem Member.Apart.does {first second : Member σ} (apart : first.Apart second)
    {one other : Option Form} {change next : σ → σ} (does : first.Does one change)
    (doesNext : second.Does other next) (value : σ) : change (next value) = next (change value) := by
  cases does with
  | nothing => rfl
  | change reads =>
    cases doesNext with
    | nothing => rfl
    | change readsNext => exact apart.commutes reads readsNext value

/-- Members with different keys are apart if their values are put into a record independently. -/
theorem Member.apart_of {α β : Type} {read : Reader α} {readNext : Reader β} {key next : String}
    {required requiredNext : Bool} {put : α → σ → σ} {putNext : β → σ → σ} (judges : JudgesForms read)
    (judgesNext : JudgesForms readNext) (different : key ≠ next)
    (commutes : ∀ value nextValue record,
      put value (putNext nextValue record) = putNext nextValue (put value record)) :
    (Member.of key required read put).Apart (Member.of next requiredNext readNext putNext) where
  keys := different
  commutes one other change later reads readsNext value := by
    obtain ⟨inner, -, rfl⟩ := (judges_member judges key required put).reads_iff.mp reads
    obtain ⟨innerNext, -, rfl⟩ :=
      (judges_member judgesNext next requiredNext putNext).reads_iff.mp readsNext
    exact commutes inner innerNext value

/-- Members make of a record, one behind the other, what is said under their keys. -/
inductive Gathers (entries : List (Option String × Form)) : List (Member σ) → σ → σ → Prop where
  | nil {value : σ} : Gathers entries [] value value
  | cons {member : Member σ} {fields : List (Member σ)} {value result : σ} {change : σ → σ}
      (does : member.Does (said entries member.key) change)
      (more : Gathers entries fields (change value) result) :
      Gathers entries (member :: fields) value result

variable {entries others : List (Option String × Form)} {fields : List (Member σ)} {member : Member σ}
  {value result : σ} {form : Form}

/-- Without members, nothing is gathered. -/
theorem gathers_nil_iff : Gathers entries [] value result ↔ result = value := by
  constructor
  · rintro ⟨⟩
    rfl
  · rintro rfl
    exact .nil

/-- The first member makes its change in front of the others, and in no other way. -/
theorem gathers_cons_iff :
    Gathers entries (member :: fields) value result ↔
      ∃ change, member.Does (said entries member.key) change ∧
        Gathers entries fields (change value) result := by
  constructor
  · rintro ⟨⟩
    next does more => exact ⟨_, does, more⟩
  · rintro ⟨change, does, more⟩
    exact .cons does more

/-- Only what is said under the keys of the members is gathered. -/
theorem Gathers.congr (gathers : Gathers entries fields value result)
    (same : ∀ member ∈ fields, said entries member.key = said others member.key) :
    Gathers others fields value result := by
  induction gathers with
  | nil => exact .nil
  | cons does more inductionHypothesis =>
    rw [same _ List.mem_cons_self] at does
    exact .cons does (inductionHypothesis fun member among => same member (.tail _ among))

/-- Where nothing is said, nothing is gathered. -/
theorem gathers_of_silent (silent : ∀ member ∈ fields, said entries member.key = none) :
    Gathers entries fields value result ↔ result = value := by
  induction fields generalizing value with
  | nil => exact gathers_nil_iff
  | cons member fields inductionHypothesis =>
    have others : ∀ value, Gathers entries fields value result ↔ result = value :=
      fun value => inductionHypothesis fun member among => silent member (.tail _ among)
    simp [gathers_cons_iff, silent member List.mem_cons_self, others]

/-- A member of an object may as well be read first of all. -/
theorem gathers_cons_entry_iff (apart : fields.Pairwise Member.Apart) (among : member ∈ fields)
    (silent : said entries member.key = none) :
    Gathers ((some member.key, form) :: entries) fields value result ↔
      ∃ change, Reads member.read form change ∧ Gathers entries fields (change value) result := by
  induction fields generalizing value with
  | nil => cases among
  | cons head fields inductionHypothesis =>
    obtain ⟨apartHead, apartFields⟩ := List.pairwise_cons.mp apart
    rw [gathers_cons_iff]
    rcases List.mem_cons.mp among with rfl | among
    · have same : ∀ other ∈ fields, said ((some member.key, form) :: entries) other.key =
          said entries other.key := fun other behind =>
        said_cons_of_ne fun same => (apartHead other behind).keys (Option.some.inj same)
      simp only [said_cons_self, Member.does_some_iff, gathers_cons_iff, silent, Member.does_none_iff,
        exists_eq_left, id_eq]
      constructor
      · rintro ⟨change, reads, more⟩
        exact ⟨change, reads, more.congr same⟩
      · rintro ⟨change, reads, more⟩
        exact ⟨change, reads, more.congr fun other behind => (same other behind).symm⟩
    · have apartMember := apartHead member among
      rw [said_cons_of_ne fun same => apartMember.keys (Option.some.inj same).symm]
      simp only [inductionHypothesis apartFields among, gathers_cons_iff]
      constructor
      · rintro ⟨next, does, change, reads, more⟩
        refine ⟨change, reads, next, does, ?_⟩
        rwa [apartMember.does does (.change reads)]
      · rintro ⟨change, reads, next, does, more⟩
        refine ⟨next, does, change, reads, ?_⟩
        rwa [← apartMember.does does (.change reads)]

end Changes

/-! ## Records -/

namespace Record

variable {σ : Type} (record : Record σ)

/-- A record is lawful if its members are apart, and their readers judge texts by their forms. -/
structure Lawful : Prop where
  apart : record.members.Pairwise Member.Apart
  judged : ∀ member ∈ record.members, JudgesForms member.read

/-- The keys of an object that the record knows, in order. -/
def knownKeys (entries : List (Option String × Form)) : List String :=
  entries.filterMap fun entry => entry.1.filter fun key => (record.find? key).isSome

/-- The items of a list, under the keys of the members in their order. -/
def labelled (items : List Form) : List (Option String × Form) :=
  (record.members.map fun member => some member.key).zip items

/-- What a form tells a record: an object its members, as long as the keys are texts and the known ones
do not repeat, and a list its items under the keys of the record. -/
inductive Tells : Form → List (Option String × Form) → Prop where
  | object {entries : List (Option String × Form)} (texts : ∀ entry ∈ entries, entry.1 ≠ none)
      (once : (record.knownKeys entries).Nodup) : Tells (.object entries) entries
  | list {items : List Form} (fits : items.length ≤ record.members.length) :
      Tells (.list items) (record.labelled items)

/-- Something is said under the key of each required member. -/
def Complete (entries : List (Option String × Form)) : Prop :=
  ∀ member ∈ record.members, member.required → said entries member.key ≠ none

/-- A form means the record that its members gather from it. -/
def Means (form : Form) (value : σ) : Prop :=
  ∃ entries, record.Tells form entries ∧ record.Complete entries ∧
    Gathers entries record.members record.blank value

section Keys

variable {record} {entries : List (Option String × Form)} {key : String} {form : Form}

/-- A known key stands in front of the others. -/
theorem knownKeys_known {member : Member σ} (known : record.find? key = some member) :
    record.knownKeys ((some key, form) :: entries) = key :: record.knownKeys entries := by
  simp [knownKeys, Option.filter, known]

/-- An unknown key is left out. -/
theorem knownKeys_unknown (unknown : record.find? key = none) :
    record.knownKeys ((some key, form) :: entries) = record.knownKeys entries := by
  simp [knownKeys, Option.filter, unknown]

/-- The keys of some members stand in front of those of the others. -/
theorem knownKeys_append (before after : List (Option String × Form)) :
    record.knownKeys (before ++ after) = record.knownKeys before ++ record.knownKeys after :=
  List.filterMap_append

/-- A key without which an object says something is no known key of it. -/
theorem not_mem_knownKeys_iff {member : Member σ} (known : record.find? key = some member) :
    key ∉ record.knownKeys entries ↔ said entries key = none := by
  rw [said_eq_none_iff]
  simp [knownKeys, known]

/-- An unknown key is that of no member. -/
theorem key_ne_of_unknown (unknown : record.find? key = none) {member : Member σ}
    (among : member ∈ record.members) : some key ≠ some member.key := by
  rintro ⟨⟩
  have other := List.find?_eq_none.mp unknown member among
  simp at other

/-- Members of a lawful record with the same key are the same. -/
theorem Lawful.eq_of_key (lawful : record.Lawful) {first second : Member σ}
    (among : first ∈ record.members) (amongToo : second ∈ record.members)
    (same : first.key = second.key) : first = second := by
  have distinct : (record.members.map (·.key)).Nodup :=
    List.pairwise_map.mpr (lawful.apart.imp Member.Apart.keys)
  exact List.inj_on_of_nodup_map distinct among amongToo same

/-- The members of a lawful record are known by their keys. -/
theorem Lawful.find?_key (lawful : record.Lawful) {member : Member σ}
    (among : member ∈ record.members) : record.find? member.key = some member := by
  cases known : record.find? member.key with
  | none => exact absurd rfl (key_ne_of_unknown known among)
  | some other =>
    obtain ⟨amongOther, same⟩ := of_find? known
    rw [lawful.eq_of_key amongOther among same]

end Keys

/-! ## Objects -/

/-- What the members of an object mean to a record that has already taken some keys. -/
structure Resumes (seen : List String) (value : σ) (entries : List (Option String × Form))
    (result : σ) : Prop where
  texts : ∀ entry ∈ entries, entry.1 ≠ none
  once : (record.knownKeys entries).Nodup
  fresh : ∀ key ∈ record.knownKeys entries, key ∉ seen
  complete : ∀ member ∈ record.members, member.required →
    member.key ∈ seen ∨ said entries member.key ≠ none
  gathers : Gathers entries record.members value result

section Objects

variable {record} {seen : List String} {value result : σ} {key : String} {form : Form}
  {entries : List (Option String × Form)}

/-- At the end of an object, nothing changes. -/
theorem resumes_nil_iff :
    record.Resumes seen value [] result ↔ record.missing? seen = none ∧ result = value := by
  have silent : Gathers [] record.members value result ↔ result = value :=
    gathers_of_silent fun _ _ => rfl
  rw [missing?_eq_none_iff]
  constructor
  · intro resumes
    exact ⟨fun member among required =>
      (resumes.complete member among required).resolve_right fun stated => stated rfl,
      silent.mp resumes.gathers⟩
  · rintro ⟨complete, same⟩
    exact ⟨by simp, by simp [knownKeys], by simp [knownKeys],
      fun member among required => .inl (complete member among required), silent.mpr same⟩

/-- Unknown keys mean nothing. -/
theorem resumes_unknown_iff (unknown : record.find? key = none) :
    record.Resumes seen value ((some key, form) :: entries) result ↔
      record.Resumes seen value entries result := by
  have same : ∀ member ∈ record.members,
      said ((some key, form) :: entries) member.key = said entries member.key :=
    fun member among => said_cons_of_ne (key_ne_of_unknown unknown among)
  constructor
  · rintro ⟨texts, once, fresh, complete, gathers⟩
    rw [knownKeys_unknown unknown] at once fresh
    refine ⟨fun entry among => texts entry (.tail _ among), once, fresh, ?_, gathers.congr same⟩
    intro member among required
    rw [← same member among]
    exact complete member among required
  · rintro ⟨texts, once, fresh, complete, gathers⟩
    refine ⟨by simpa using texts, ?_, ?_, ?_, gathers.congr fun member among => (same member among).symm⟩
    · rwa [knownKeys_unknown unknown]
    · rwa [knownKeys_unknown unknown]
    · intro member among required
      rw [same member among]
      exact complete member among required

/-- A known key means the change that its value is read as, in front of the others. -/
theorem resumes_known_iff (lawful : record.Lawful) {member : Member σ}
    (known : record.find? key = some member) :
    record.Resumes seen value ((some key, form) :: entries) result ↔
      key ∉ seen ∧ ∃ change, Reads member.read form change ∧
        record.Resumes (key :: seen) (change value) entries result := by
  obtain ⟨among, rfl⟩ := of_find? known
  have elsewhere : ∀ other ∈ record.members, other.key ≠ member.key →
      said ((some member.key, form) :: entries) other.key = said entries other.key :=
    fun other _ different => said_cons_of_ne fun same => different (Option.some.inj same).symm
  constructor
  · rintro ⟨texts, once, fresh, complete, gathers⟩
    rw [knownKeys_known known] at once fresh
    obtain ⟨alone, once⟩ := List.nodup_cons.mp once
    have silent := (not_mem_knownKeys_iff known).mp alone
    obtain ⟨change, reads, gathers⟩ :=
      (gathers_cons_entry_iff lawful.apart among silent).mp gathers
    refine ⟨fresh _ List.mem_cons_self, change, reads, ?_, once, ?_, ?_, gathers⟩
    · exact fun entry behind => texts entry (.tail _ behind)
    · rintro other behind (_ | ⟨_, before⟩)
      · exact alone behind
      · exact fresh other (.tail _ behind) before
    · intro other amongOther required
      by_cases same : other.key = member.key
      · exact .inl (same ▸ List.mem_cons_self)
      · rw [← elsewhere other amongOther same]
        exact (complete other amongOther required).imp_left (.tail _)
  · rintro ⟨unseen, change, reads, texts, once, fresh, complete, gathers⟩
    have alone : member.key ∉ record.knownKeys entries := fun behind =>
      fresh _ behind List.mem_cons_self
    have silent := (not_mem_knownKeys_iff known).mp alone
    refine ⟨by simpa using texts, ?_, ?_, ?_,
      (gathers_cons_entry_iff lawful.apart among silent).mpr ⟨change, reads, gathers⟩⟩
    · rw [knownKeys_known known]
      exact List.nodup_cons.mpr ⟨alone, once⟩
    · rw [knownKeys_known known]
      rintro other (_ | ⟨_, behind⟩)
      · exact unseen
      · exact fun before => fresh other behind (.tail _ before)
    · intro other amongOther required
      by_cases same : other.key = member.key
      · exact .inr (by simp [same])
      · rw [elsewhere other amongOther same]
        refine (complete other amongOther required).imp_left fun before => ?_
        exact (List.mem_cons.mp before).resolve_left same

/-- A walk through an object arrives at what the members mean. -/
theorem absorbs_iff (lawful : record.Lawful) :
    record.Absorbs seen value entries result ↔ record.Resumes seen value entries result := by
  induction entries generalizing seen value with
  | nil => rw [absorbs_nil_iff, resumes_nil_iff]
  | cons entry entries inductionHypothesis =>
    obtain ⟨label, form⟩ := entry
    cases label with
    | none =>
      refine iff_of_false not_absorbs_none fun resumes => ?_
      exact resumes.texts _ List.mem_cons_self rfl
    | some key =>
      cases known : record.find? key with
      | none => rw [absorbs_unknown_iff known, resumes_unknown_iff known, inductionHypothesis]
      | some member =>
        simp only [absorbs_known_iff known, resumes_known_iff lawful known, inductionHypothesis]

end Objects

/-! ## Lists -/

section Lists

variable {value result : σ} {items : List Form}

/-- A walk through a list arrives at what its items mean under the keys of the members. -/
theorem enlists_iff {fields : List (Member σ)} (apart : fields.Pairwise Member.Apart) :
    Enlists fields value items result ↔
      items.length ≤ fields.length ∧
        (∀ member ∈ fields, member.required →
          said ((fields.map fun member => some member.key).zip items) member.key ≠ none) ∧
        Gathers ((fields.map fun member => some member.key).zip items) fields value result := by
  induction fields generalizing value items with
  | nil =>
    cases items with
    | nil => simp [enlists_nil_iff, gathers_nil_iff]
    | cons form items => exact iff_of_false nofun (by simp)
  | cons member fields inductionHypothesis =>
    obtain ⟨apartMember, apartFields⟩ := List.pairwise_cons.mp apart
    cases items with
    | nil =>
      have silent : ∀ key, said [] key = none := fun _ => rfl
      rw [enlists_nil_iff, List.zip_nil_right, gathers_of_silent fun member _ => silent member.key]
      simp [silent]
    | cons form items =>
      have same : ∀ other ∈ fields, said ((some member.key, form) ::
          (fields.map fun member => some member.key).zip items) other.key =
          said ((fields.map fun member => some member.key).zip items) other.key :=
        fun other behind => said_cons_of_ne fun same =>
          (apartMember other behind).keys (Option.some.inj same)
      simp only [enlists_cons_iff, inductionHypothesis apartFields, List.map_cons, List.zip_cons_cons,
        gathers_cons_iff, said_cons_self, Member.does_some_iff, List.length_cons,
        Nat.add_le_add_iff_right, List.forall_mem_cons]
      constructor
      · rintro ⟨change, reads, fits, complete, gathers⟩
        refine ⟨fits, ⟨by simp, ?_⟩, change, reads, gathers.congr fun other behind =>
          (same other behind).symm⟩
        intro other behind required
        rw [same other behind]
        exact complete other behind required
      · rintro ⟨fits, ⟨-, complete⟩, change, reads, gathers⟩
        refine ⟨change, reads, fits, ?_, gathers.congr same⟩
        intro other behind required
        rw [← same other behind]
        exact complete other behind required

end Lists

/-! ## The meaning of a form -/

section Means

variable {record} {form : Form} {value : σ}

/-- A lawful record walks through a form to what it means. -/
theorem accepts_iff (lawful : record.Lawful) : record.Accepts form value ↔ record.Means form value := by
  constructor
  · rintro (absorbs | enlists)
    · obtain ⟨texts, once, -, complete, gathers⟩ := (absorbs_iff lawful).mp absorbs
      refine ⟨_, .object texts once, ?_, gathers⟩
      exact fun member among required => (complete member among required).resolve_left nofun
    · obtain ⟨fits, complete, gathers⟩ := (enlists_iff lawful.apart).mp enlists
      exact ⟨_, .list fits, complete, gathers⟩
  · rintro ⟨entries, tells, complete, gathers⟩
    cases tells with
    | object texts once =>
      refine .object ((absorbs_iff lawful).mpr ⟨texts, once, nofun, ?_, gathers⟩)
      exact fun member among required => .inr (complete member among required)
    | list fits => exact .list ((enlists_iff lawful.apart).mpr ⟨fits, complete, gathers⟩)

/-- A null is no record. -/
theorem not_means_null : ¬record.Means .null value := by
  rintro ⟨entries, tells, -⟩
  cases tells

/-- A lawful record judges texts by what their forms mean. -/
theorem judges_means (lawful : record.Lawful) : Judges record.read record.Means := by
  have judges := judges_read record lawful.judged
  have same : record.Accepts = record.Means :=
    funext fun form => funext fun value => propext (accepts_iff lawful)
  rwa [same] at judges

end Means

end Record

end NodeLookup.Json
