import NodeLookup.Proofs.Json.Rewriting
import NodeLookup.Server.Reading

/-!
# The shapes of the records in an answer

Answers hold servers, servers hold flavors and address groups, and those hold addresses. All five records
are lawful (`Shape.lawful`), so that each of them is read as what its form means. Address groups are no
record: they mirror their form entry by entry (`AddressGroup.judges_read`). What an outer record holds
is read off its form at the place of the inner one, and there it may be exchanged.
-/

namespace NodeLookup

open Json

/-! ## Addresses -/

/-- Texts are judged by their forms. -/
theorem judges_text : JudgesForms stringValue := judges_stringValue.judgesForms

/-- So are texts that may be absent. -/
theorem judges_text? : JudgesForms (Json.optional stringValue) :=
  (judges_optional judges_stringValue).judgesForms

/-- A text is a default if it is put into the blank record already. -/
theorem isDefault_text_iff {σ : Type} {record : Record σ} {key : String} {required : Bool}
    {put : String → σ → σ} {form : Form} : record.IsDefault (.of key required stringValue put) form ↔
      ∃ text, form = .string (some text) ∧ put text record.blank = record.blank :=
  Record.isDefault_of_iff judges_stringValue

/-- So is a text that may be absent. -/
theorem isDefault_text?_iff {σ : Type} {record : Record σ} {key : String} {required : Bool}
    {put : Option String → σ → σ} {form : Form} :
    record.IsDefault (.of key required (Json.optional stringValue) put) form ↔
      ∃ text?, ((form = .null ∧ text? = none) ∨
        form ≠ .null ∧ ∃ text, form = .string (some text) ∧ text? = some text) ∧
        put text? record.blank = record.blank :=
  Record.isDefault_of_iff (judges_optional judges_stringValue)

/-- The members of an address do not depend on each other. -/
theorem Address.lawful : Address.record.Lawful where
  apart := by simp [Address.record, Member.apart_of, judges_text, judges_text?]
  judged := by simp [Address.record, judgesForms_member, judges_text, judges_text?]

/-- Lists of addresses are judged by their forms. -/
theorem Address.judges_list : JudgesForms (listOf Address.record.read) :=
  (judges_listOf (Record.judges_means Address.lawful)).judgesForms

namespace AddressGroup

/-- Address groups mirror the members of an object if there is one for each of them, in the same order,
with its key for the network and its value for the addresses. -/
def Mirrors (entries : List (Option String × Form)) (groups : List AddressGroup) : Prop :=
  List.Forall₂ (fun entry group => entry.1 = some group.network ∧
    Reads (listOf Address.record.read) entry.2 group.addresses) entries groups

/-- No groups mirror nothing else than the empty object. -/
@[simp] theorem mirrors_nil_iff {entries : List (Option String × Form)} :
    Mirrors entries [] ↔ entries = [] := List.forall₂_nil_right_iff

/-- Groups mirror an object if they are made of what its members are read as. -/
theorem mirrors_iff {entries : List (Option String × Form)} {groups : List AddressGroup} :
    Mirrors entries groups ↔ ∃ values : List (String × List Address),
      List.Forall₂ (fun entry value => entry.1 = some value.1 ∧
        Reads (listOf Address.record.read) entry.2 value.2) entries values ∧
      groups = values.map fun value => AddressGroup.mk value.1 value.2 := by
  constructor
  · intro mirrors
    refine ⟨groups.map fun group => (group.network, group.addresses), ?_, ?_⟩
    · rwa [List.forall₂_map_right_iff]
    · rw [List.map_map]
      exact (List.map_id groups).symm
  · rintro ⟨values, all, rfl⟩
    rwa [Mirrors, List.forall₂_map_right_iff]

/-- What is read as address groups is written. -/
theorem exists_of_read {text rest : List Char} {groups : List AddressGroup}
    (accepted : AddressGroup.read text = .ok (groups, rest)) : ∃ before levels word form,
      Blank before ∧ Writes levels word form ∧ text = before ++ (word ++ rest) := by
  unfold AddressGroup.read at accepted
  split at accepted
  · cases accepted
  · next visible =>
    obtain ⟨after, literal, same⟩ := bind_eq_ok_iff.mp accepted
    cases same
    obtain ⟨-, before, blank, rfl⟩ := skipBlank_eq_cons_iff.mp visible
    rw [word_eq_ok_iff.mp literal]
    exact ⟨before, 0, _, _, blank, .null, rfl⟩
  · next visible =>
    simp only [bind_eq_ok_iff, Prod.exists] at accepted
    obtain ⟨values, after, known, same⟩ := accepted
    cases same
    obtain ⟨levels, body, entries, parts, rfl⟩ := exists_of_entries Address.judges_list known
    obtain ⟨-, before, blank, rfl⟩ := skipBlank_eq_cons_iff.mp visible
    exact ⟨before, levels + 1, _, _, blank, .inr (.object parts), by simp⟩
  · cases accepted
  · cases accepted

/-- Address groups mirror an object, and a null is as good as the empty one. -/
theorem judges_read : Judges AddressGroup.read fun form groups =>
    (form = .null ∧ groups = []) ∨ ∃ entries, form = .object entries ∧ Mirrors entries groups := by
  apply Judges.of_settles _ exists_of_read
  intro before levels word rest form blank writes delimits
  by_cases isNull : form = .null
  · subst isNull
    have known : AddressGroup.read (before ++ (['n', 'u', 'l', 'l'] ++ rest)) = .ok ([], rest) := by
      simp [AddressGroup.read, skipBlank_append blank, isBlank, Json.word, bind, Except.bind]
    rw [writes.of_null, known]
    exact .ok fun groups => by simp
  by_cases isObject : ∃ entries, form = .object entries
  · obtain ⟨entries, rfl⟩ := isObject
    obtain ⟨inner, body, parts, rfl⟩ := writes.of_object
    have enough : body.length < (body ++ '\x7d' :: rest).length + 1 := by
      rw [List.length_append]
      omega
    have known := settles_entries Address.judges_list parts enough rest
    rw [AddressGroup.read, skipBlank_append blank, List.cons_append, skipBlank_cons (by decide),
      List.append_assoc]
    refine (known.map fun entries => entries.map fun entry => AddressGroup.mk entry.1 entry.2).congr
      fun groups => ?_
    simp [mirrors_iff]
  · refine .error ?_ ?_
    · refine refuses_of_opens (fun {head tail text} opens visible => ?_) blank writes delimits
      have notNull : head ≠ 'n' := fun same => isNull (opens.kind.1 same)
      have notBrace : head ≠ '\x7b' := fun same => isObject (opens.kind.2.2.2 same)
      unfold AddressGroup.read
      rw [visible]
      split <;> simp_all
    · rintro groups (⟨same, -⟩ | ⟨entries, same, -⟩)
      · exact isNull same
      · exact isObject ⟨entries, same⟩

end AddressGroup

/-! ## Servers -/

/-- The members of a flavor do not depend on each other. -/
theorem Flavor.lawful : Flavor.record.Lawful where
  apart := by simp [Flavor.record, Member.apart_of, judges_text, judges_text?]
  judged := by simp [Flavor.record, judgesForms_member, judges_text, judges_text?]

/-- Flavors that may be absent are judged by their forms. -/
theorem Flavor.judges_optional : JudgesForms (Json.optional Flavor.record.read) :=
  (Json.judges_optional (Record.judges_means Flavor.lawful)).judgesForms

/-- The members of a server do not depend on each other. -/
theorem Server.lawful : Server.record.Lawful where
  apart := by
    have groups := AddressGroup.judges_read.judgesForms
    simp [Server.record, Member.apart_of, judges_text, judges_text?, groups, Flavor.judges_optional]
  judged := by
    have groups := AddressGroup.judges_read.judgesForms
    simp [Server.record, judgesForms_member, judges_text, judges_text?, groups, Flavor.judges_optional]

/-- Servers are judged by their forms. -/
theorem Server.judges_read : JudgesForms Server.record.read :=
  (Record.judges_means Server.lawful).judgesForms

/-! ## Answers -/

/-- The only member of an answer to a question for one server does not depend on another. -/
theorem Server.answer_lawful : Server.answer.Lawful where
  apart := by simp [Server.answer]
  judged := by simp [Server.answer, judgesForms_member, Server.judges_read]

/-- Counts that may be absent are judged by their forms. -/
theorem Listing.judges_count : JudgesForms (Json.optional countValue) :=
  (Json.judges_optional judges_countValue).judgesForms

/-- Lists of servers are judged by their forms. -/
theorem Listing.judges_servers : JudgesForms (listOf Server.record.read) :=
  (judges_listOf Server.judges_read).judgesForms

/-- The members of an answer to a search do not depend on each other. -/
theorem Listing.lawful : Listing.record.Lawful where
  apart := by simp [Listing.record, Member.apart_of, Listing.judges_count, Listing.judges_servers]
  judged := by simp [Listing.record, judgesForms_member, Listing.judges_count, Listing.judges_servers]

/-! ## What the records hold -/

section Holding

variable {place : Form → Form} {part : Form}

/-- The flavor in the form of a server is read, and what is read the same may stand in its place. -/
theorem Server.exists_flavor (holds : Server.record.Holds "flavor" place) (present : part ≠ .null)
    {server : Server} (means : Server.record.Means (place part) server) :
    ∃ flavor, Flavor.record.Means part flavor ∧
      ∀ other, Flavor.record.Means other flavor → Server.record.Means (place other) server := by
  have among : Member.of "flavor" false (Json.optional Flavor.record.read)
      (fun value server => { server with flavor := value }) ∈ Server.record.members := by
    simp [Server.record]
  have judges := Json.judges_optional (Record.judges_means Flavor.lawful)
  obtain ⟨flavor?, -, reads, -, elsewhere⟩ :=
    holds.exists_put Server.lawful among Flavor.judges_optional means
  obtain ⟨null, -⟩ | ⟨-, flavor, meansFlavor, rfl⟩ := judges.reads_iff.mp reads
  · exact absurd null present
  · refine ⟨flavor, meansFlavor, fun other meansOther => elsewhere other (judges.reads (.inr ?_))⟩
    refine ⟨?_, flavor, meansOther, rfl⟩
    rintro rfl
    exact Record.not_means_null meansOther

/-- The groups of a server mirror the object of addresses in its form, and another object that they
mirror may stand in its place. -/
theorem Server.mirrors_addresses (holds : Server.record.Holds "addresses" place)
    {entries : List (Option String × Form)} {server : Server}
    (means : Server.record.Means (place (.object entries)) server) :
    AddressGroup.Mirrors entries server.addresses ∧ ∀ others,
      AddressGroup.Mirrors others server.addresses → Server.record.Means (place (.object others)) server := by
  have among : Member.of "addresses" false AddressGroup.read
      (fun value server => { server with addresses := value }) ∈ Server.record.members := by
    simp [Server.record]
  have judges := AddressGroup.judges_read
  obtain ⟨groups, prior, reads, rfl, elsewhere⟩ :=
    holds.exists_put Server.lawful among judges.judgesForms means
  obtain ⟨null, -⟩ | ⟨others, same, mirrors⟩ := judges.reads_iff.mp reads
  · cases null
  · cases same
    exact ⟨mirrors, fun others mirrors => elsewhere _ (judges.reads (.inr ⟨others, rfl, mirrors⟩))⟩

/-- An answer for one server is that server, and what is read as the same server may stand in its
place. -/
theorem Server.means_of_answer (holds : Server.answer.Holds "server" place) {server : Server}
    (means : Server.answer.Means (place part) server) :
    Server.record.Means part server ∧
      ∀ other, Server.record.Means other server → Server.answer.Means (place other) server := by
  have among : Member.of "server" true Server.record.read (fun value _ => value) ∈
      Server.answer.members := by simp [Server.answer]
  have judges := Record.judges_means Server.lawful
  obtain ⟨inside, prior, reads, rfl, elsewhere⟩ :=
    holds.exists_put Server.answer_lawful among Server.judges_read means
  exact ⟨judges.reads_iff.mp reads, fun other means => elsewhere other (judges.reads means)⟩

/-- An answer to a search holds a server at each place of its list, and what is read as the same server
may stand there. -/
theorem Listing.exists_server (holds : Listing.record.Holds "servers" place) {earlier later : List Form}
    {listing : Listing}
    (means : Listing.record.Means (place (.list (earlier ++ part :: later))) listing) :
    ∃ server, listing.servers[earlier.length]? = some server ∧ Server.record.Means part server ∧
      ∀ other, Server.record.Means other server →
        Listing.record.Means (place (.list (earlier ++ other :: later))) listing := by
  have among : Member.of "servers" false (listOf Server.record.read)
      (fun value listing => { listing with servers := value }) ∈ Listing.record.members := by
    simp [Listing.record]
  have judges := Record.judges_means Server.lawful
  obtain ⟨servers, prior, readsList, rfl, elsewhere⟩ :=
    holds.exists_put Listing.lawful among (judges_listOf Server.judges_read).judgesForms means
  obtain ⟨server, found, reads, elsewhereList⟩ := exists_of_reads_item Server.judges_read readsList
  exact ⟨server, found, judges.reads_iff.mp reads, fun other means =>
    elsewhere _ (elsewhereList other (judges.reads means))⟩

end Holding

end NodeLookup
