import NodeLookup.Proofs.Json.Counting
import NodeLookup.Proofs.Json.Fields
import NodeLookup.Proofs.Server.Shapes

/-!
# What an answer to a search says

An answer to a search has a count and a list of servers, which need not agree. `Listing.States` reads both
off the form of the answer, each on its own, and `Listing.decode_eq_ok_iff` is that an answer decodes to a
listing exactly if its form states it.
-/

namespace NodeLookup.Listing

open Json

/-- What an answer says of servers, and the servers of which it says so. -/
inductive Serves : Option Form → List Server → Prop where
  | absent : Serves none []
  | list {forms : List Form} {servers : List Server}
      (all : List.Forall₂ Server.record.Means forms servers) : Serves (some (.list forms)) servers

/-- The form of an answer states what a listing holds: its count under the one key, its servers under the
other. -/
structure States (form : Form) (listing : Listing) : Prop where
  tells : ∃ entries, Listing.record.Tells form entries
  counts : Counts (form.member? "count" 0) listing.count
  serves : Serves (form.member? "servers" 1) listing.servers

/-- Nothing is read as a list of servers but a list of forms that mean them. -/
theorem reads_servers_iff {form : Form} {servers : List Server} :
    Reads (listOf Server.record.read) form servers ↔ Serves (some form) servers := by
  rw [(judges_listOf (Record.judges_means Server.lawful)).reads_iff]
  constructor
  · rintro ⟨forms, rfl, all⟩
    exact .list all
  · rintro ⟨⟩
    next forms all => exact ⟨forms, rfl, all⟩

/-- The count that is gathered is the one that is said. -/
theorem makes_count_iff {stated : Option Form} {result : Listing} :
    (Member.of "count" false (Json.optional countValue) fun value (listing : Listing) =>
        { listing with count := value }).Makes stated {} result ↔
      ∃ count?, Counts stated count? ∧ result = { count := count? } := by
  rw [Member.makes_of_iff judges_count]
  constructor
  · rintro (⟨rfl, rfl⟩ | ⟨form, count?, rfl, reads, rfl⟩)
    · exact ⟨none, .absent, rfl⟩
    · exact ⟨count?, reads_count_iff.mp reads, rfl⟩
  · rintro ⟨count?, counts, rfl⟩
    cases stated with
    | none =>
      cases counts
      exact .inl ⟨rfl, rfl⟩
    | some form => exact .inr ⟨form, count?, rfl, reads_count_iff.mpr counts, rfl⟩

/-- So are the servers, behind the count. -/
theorem makes_servers_iff {stated : Option Form} {count? : Option Nat} {result : Listing} :
    (Member.of "servers" false (listOf Server.record.read) fun value (listing : Listing) =>
        { listing with servers := value }).Makes stated { count := count? } result ↔
      result.count = count? ∧ Serves stated result.servers := by
  rw [Member.makes_of_iff judges_servers]
  constructor
  · rintro (⟨rfl, rfl⟩ | ⟨form, servers, rfl, reads, rfl⟩)
    · exact ⟨rfl, .absent⟩
    · exact ⟨rfl, reads_servers_iff.mp reads⟩
  · obtain ⟨count, servers⟩ := result
    rintro ⟨rfl, serves⟩
    cases stated with
    | none =>
      cases serves
      exact .inl ⟨rfl, rfl⟩
    | some form => exact .inr ⟨form, servers, rfl, reads_servers_iff.mpr serves, rfl⟩

/-- Count and servers are gathered each on its own. -/
theorem gathers_iff {entries : List (Option String × Form)} {listing : Listing} :
    Gathers entries Listing.record.members Listing.record.blank listing ↔
      Counts (said entries "count") listing.count ∧ Serves (said entries "servers") listing.servers := by
  simp only [Listing.record, gathers_cons_iff_makes, gathers_nil_iff, member_of_key, makes_count_iff]
  constructor
  · rintro ⟨_, ⟨count?, counts, rfl⟩, _, makes, rfl⟩
    obtain ⟨rfl, serves⟩ := makes_servers_iff.mp makes
    exact ⟨counts, serves⟩
  · rintro ⟨counts, serves⟩
    exact ⟨_, ⟨_, counts, rfl⟩, listing, makes_servers_iff.mpr ⟨rfl, serves⟩, rfl⟩

/-- An answer means a listing exactly if its form states it. -/
theorem states_iff {form : Form} {listing : Listing} :
    Listing.record.Means form listing ↔ States form listing := by
  have counted : ∀ {entries}, Listing.record.Tells form entries →
      said entries "count" = form.member? "count" 0 :=
    fun tells => tells.said_eq_member? Listing.lawful rfl
  have served : ∀ {entries}, Listing.record.Tells form entries →
      said entries "servers" = form.member? "servers" 1 :=
    fun tells => tells.said_eq_member? Listing.lawful rfl
  constructor
  · rintro ⟨entries, tells, -, gathers⟩
    obtain ⟨counts, serves⟩ := gathers_iff.mp gathers
    rw [counted tells] at counts
    rw [served tells] at serves
    exact ⟨⟨entries, tells⟩, counts, serves⟩
  · rintro ⟨⟨entries, tells⟩, counts, serves⟩
    rw [← counted tells] at counts
    rw [← served tells] at serves
    exact ⟨entries, tells, by simp [Record.Complete, Listing.record], gathers_iff.mpr ⟨counts, serves⟩⟩

/-- The text of a form decodes to the listing that the form states. -/
theorem decode_eq_ok_iff {body : String} {form : Form} (isText : IsText body.toList form)
    {listing : Listing} : Listing.decode body = .ok listing ↔ States form listing :=
  ((Record.judges_means Listing.lawful).decode_iff isText).trans states_iff

/-- Every text that decodes states what it decodes to. -/
theorem exists_states {body : String} {listing : Listing} (decoded : Listing.decode body = .ok listing) :
    ∃ form, IsText body.toList form ∧ States form listing := by
  obtain ⟨form, isText⟩ := (Record.judges_means Listing.lawful).exists_isText decoded
  exact ⟨form, isText, (decode_eq_ok_iff isText).mp decoded⟩

/-- No text decodes with a count that counts nothing. -/
theorem exists_failure_of_noCount {body : String} {form part : Form} (isText : IsText body.toList form)
    (stated : form.member? "count" 0 = some part) (noCount : NoCount part) :
    ∃ failure, Listing.decode body = .error failure := by
  cases decoded : Listing.decode body with
  | error failure => exact ⟨failure, rfl⟩
  | ok listing =>
    have counts := ((decode_eq_ok_iff isText).mp decoded).counts
    rw [stated] at counts
    exact absurd counts (noCount.not_counts listing.count)

end NodeLookup.Listing
