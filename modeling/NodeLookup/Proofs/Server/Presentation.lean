import Mathlib.Logic.Relation
import NodeLookup.Proofs.Server.Shapes

/-!
# Server records are read up to presentation

An answer may be presented in many ways. Rewriting one of the records in it, at any depth, does not change
what the answer decodes to; a fault in one of them keeps the whole answer from being decoded. Both are
shown where the record stands and carried outwards level by level: `Shape.Contains` is one level, from a
record to one inside it, and `Shape.Reaches` any number of them. Nothing of this holds for the objects of
addresses, whose members are no record: their order and repetition show in the decoded groups.
-/

namespace NodeLookup

open Json

/-- The records in an answer. -/
inductive Shape where
  | answer
  | listing
  | server
  | flavor
  | address
deriving DecidableEq, Repr

namespace Shape

/-- What a record is read as. -/
abbrev Value : Shape → Type
  | answer => Server
  | listing => Listing
  | server => Server
  | flavor => Flavor
  | address => Address

/-- The members of a record, and how they are read. -/
def record : (shape : Shape) → Record shape.Value
  | answer => Server.answer
  | listing => Listing.record
  | server => Server.record
  | flavor => Flavor.record
  | address => Address.record

/-- The keys of a record, in the order in which a list holds their values. -/
def keys : Shape → List String
  | answer => ["server"]
  | listing => ["count", "servers"]
  | server =>
    ["id", "name", "status", "addresses", "flavor", "OS-EXT-AZ:availability_zone", "created", "updated"]
  | flavor => ["id", "name", "vcpus", "ram"]
  | address => ["addr", "version", "OS-EXT-IPS:type", "OS-EXT-IPS-MAC:mac_addr"]

/-- The keys without which a record is refused. -/
def requiredKeys : Shape → List String
  | answer => ["server"]
  | listing => []
  | server => ["id"]
  | flavor => []
  | address => ["addr"]

/-- The keys under which a text has to stand. -/
def textKeys : Shape → List String
  | answer => []
  | listing => []
  | server => ["id", "name", "status"]
  | flavor => ["id", "name"]
  | address => ["addr", "OS-EXT-IPS:type"]

/-- The keys under which a null may stand. -/
def nullKeys : Shape → List String
  | answer => []
  | listing => ["count"]
  | server => ["addresses", "flavor", "OS-EXT-AZ:availability_zone", "created", "updated"]
  | flavor => ["vcpus", "ram"]
  | address => ["version", "OS-EXT-IPS-MAC:mac_addr"]

/-- The defaults of a record: an empty text, a null, no addresses, or no servers. -/
inductive Default : Shape → String → Form → Prop where
  | text {shape : Shape} {key : String} (text : key ∈ shape.textKeys) :
      Default shape key (.string (some ""))
  | null {shape : Shape} {key : String} (null : key ∈ shape.nullKeys) : Default shape key .null
  | addresses : Default server "addresses" (.object [])
  | servers : Default listing "servers" (.list [])

/-! ## Places -/

/-- Where a record stands in another one. -/
inductive Contains : Shape → Shape → (Form → Form) → Prop where
  | server {place : Form → Form} (holds : Server.answer.Holds "server" place) :
      Contains answer server place
  | servers {place : Form → Form} {earlier later : List Form}
      (holds : Listing.record.Holds "servers" place) :
      Contains listing server fun part => place (.list (earlier ++ part :: later))
  | flavor {place : Form → Form} (holds : Server.record.Holds "flavor" place) :
      Contains server flavor place
  | address {place : Form → Form} {before after : List (Option String × Form)} {network : Option String}
      {earlier later : List Form} (holds : Server.record.Holds "addresses" place) :
      Contains server address fun part =>
        place (.object (before ++ (network, .list (earlier ++ part :: later)) :: after))

/-- Where a record stands in another one, however deep. -/
inductive Reaches : Shape → Shape → (Form → Form) → Prop where
  | here {shape : Shape} : Reaches shape shape id
  | inside {outer middle inner : Shape} {place further : Form → Form}
      (contains : Contains outer middle place) (reaches : Reaches middle inner further) :
      Reaches outer inner fun part => place (further part)

/-- One of the records in an answer is rewritten. -/
inductive Rewrites (outer : Shape) : Form → Form → Prop where
  | mk {inner : Shape} {place : Form → Form} {part other : Form} (reaches : outer.Reaches inner place)
      (rewrites : inner.record.Rewrites part other) : Rewrites outer (place part) (place other)

/-- What is wrong with a record. -/
inductive Fault (shape : Shape) : Form → Prop where
  | repeated {key : String} {before between after : List (Option String × Form)} {one other : Form}
      (known : key ∈ shape.keys) :
      Fault shape (.object (before ++ (some key, one) :: (between ++ (some key, other) :: after)))
  | missing {key : String} {entries : List (Option String × Form)} (required : key ∈ shape.requiredKeys)
      (absent : ∀ form, (some key, form) ∉ entries) : Fault shape (.object entries)
  | short {key : String} {items : List Form} {index : Nat} (required : key ∈ shape.requiredKeys)
      (position : shape.keys[index]? = some key) (ends : items.length ≤ index) :
      Fault shape (.list items)
  | null {key : String} {place : Form → Form} (text : key ∈ shape.textKeys)
      (holds : shape.record.Holds key place) : Fault shape (place .null)

/-- One of the records in an answer is faulty. -/
inductive Faulty (outer : Shape) : Form → Prop where
  | mk {inner : Shape} {place : Form → Form} {part : Form} (reaches : outer.Reaches inner place)
      (fault : inner.Fault part) : Faulty outer (place part)

/-- All records are lawful. -/
theorem lawful (shape : Shape) : shape.record.Lawful := by
  cases shape with
  | answer => exact Server.answer_lawful
  | listing => exact Listing.lawful
  | server => exact Server.lawful
  | flavor => exact Flavor.lawful
  | address => exact Address.lawful

/-- The members of a record have its keys, in their order. -/
theorem map_key_members (shape : Shape) : shape.record.members.map (·.key) = shape.keys := by
  cases shape <;> rfl

/-- The required members are those with the required keys. -/
theorem map_key_required (shape : Shape) :
    (shape.record.members.filter (·.required)).map (·.key) = shape.requiredKeys := by
  cases shape <;> rfl

/-- A record inside another one is read together with it, and what is read the same may stand in its
place. -/
theorem Contains.exists_part {outer inner : Shape} {place : Form → Form} {part : Form}
    {value : outer.Value} (contains : Contains outer inner place) (present : part ≠ .null)
    (means : outer.record.Means (place part) value) :
    ∃ inside, inner.record.Means part inside ∧
      ∀ other, inner.record.Means other inside → outer.record.Means (place other) value := by
  cases contains with
  | server holds => exact ⟨value, Server.means_of_answer holds means⟩
  | servers holds =>
    obtain ⟨inside, -, meansInside, elsewhere⟩ := Listing.exists_server holds means
    exact ⟨inside, meansInside, elsewhere⟩
  | flavor holds => exact Server.exists_flavor holds present means
  | @address place before after network earlier later holds =>
    have judges := Record.judges_means Address.lawful
    obtain ⟨mirrors, elsewhere⟩ := Server.mirrors_addresses holds means
    obtain ⟨group, -, ⟨label, readsList⟩, elsewhereGroups⟩ := exists_of_forall₂_append mirrors
    obtain ⟨inside, -, reads, elsewhereList⟩ := exists_of_reads_item judges.judgesForms readsList
    refine ⟨inside, judges.reads_iff.mp reads, fun other means => elsewhere _ ?_⟩
    exact elsewhereGroups (network, _) ⟨label, elsewhereList other (judges.reads means)⟩

/-- What contains a record is no null. -/
theorem Contains.ne_null {outer inner : Shape} {place : Form → Form} (contains : Contains outer inner place)
    (part : Form) : place part ≠ .null := by
  cases contains <;> exact Record.Holds.ne_null ‹_›

/-- Neither is a record that reaches one. -/
theorem Reaches.ne_null {outer inner : Shape} {place : Form → Form} (reaches : Reaches outer inner place)
    {part : Form} (present : part ≠ .null) : place part ≠ .null := by
  cases reaches with
  | here => exact present
  | inside contains reaches => exact contains.ne_null _

/-- The same holds at any depth. -/
theorem Reaches.exists_part {outer inner : Shape} {place : Form → Form} (reaches : Reaches outer inner place)
    {part : Form} (present : part ≠ .null) {value : outer.Value}
    (means : outer.record.Means (place part) value) :
    ∃ inside, inner.record.Means part inside ∧
      ∀ other, inner.record.Means other inside → outer.record.Means (place other) value := by
  induction reaches with
  | here => exact ⟨value, means, fun other means => means⟩
  | inside contains reaches inductionHypothesis =>
    obtain ⟨between, meansBetween, elsewhere⟩ :=
      contains.exists_part (reaches.ne_null present) means
    obtain ⟨inside, meansInside, elsewhereInside⟩ := inductionHypothesis meansBetween
    exact ⟨inside, meansInside, fun other means => elsewhere _ (elsewhereInside other means)⟩

/-! ## Defaults -/

/-- All defaults there are. -/
theorem default_iff {shape : Shape} {key : String} {form : Form} :
    shape.Default key form ↔ (key ∈ shape.textKeys ∧ form = .string (some "")) ∨
      (key ∈ shape.nullKeys ∧ form = .null) ∨
      (shape = server ∧ key = "addresses" ∧ form = .object []) ∨
      (shape = listing ∧ key = "servers" ∧ form = .list []) := by
  constructor
  · intro isDefault
    cases isDefault <;> simp_all
  · rintro (⟨text, rfl⟩ | ⟨null, rfl⟩ | ⟨rfl, rfl, rfl⟩ | ⟨rfl, rfl, rfl⟩)
    exacts [.text text, .null null, .addresses, .servers]

/-- The defaults are what is read as the value that a record has without the member. -/
theorem isDefault_iff {shape : Shape} {member : Member shape.Value} (among : member ∈ shape.record.members)
    (optional : member.required = false) (form : Form) :
    shape.record.IsDefault member form ↔ shape.Default member.key form := by
  rw [default_iff]
  cases shape with
  | answer =>
    simp only [record, Server.answer, List.mem_singleton] at among
    subst among
    cases optional
  | listing =>
    simp only [record, Listing.record, List.mem_cons, List.not_mem_nil, or_false] at among
    have count := judges_optional judges_countValue
    have servers := judges_listOf (Record.judges_means Server.lawful)
    rcases among with rfl | rfl
    · simp [record, Listing.record, Record.isDefault_of_iff count, textKeys, nullKeys]
    · simp [record, Listing.record, Record.isDefault_of_iff servers, textKeys, nullKeys]
  | server =>
    simp only [record, Server.record, List.mem_cons, List.not_mem_nil, or_false] at among
    have groups := AddressGroup.judges_read
    have flavor := judges_optional (Record.judges_means Flavor.lawful)
    rcases among with rfl | rfl | rfl | rfl | rfl | rfl | rfl | rfl
    · cases optional
    · simp [record, Server.record, isDefault_text_iff, textKeys, nullKeys]
    · simp [record, Server.record, isDefault_text_iff, textKeys, nullKeys]
    · simp [record, Server.record, Record.isDefault_of_iff groups, textKeys, nullKeys]
    · simp [record, Server.record, Record.isDefault_of_iff flavor, textKeys, nullKeys]
    · simp [record, Server.record, isDefault_text?_iff, textKeys, nullKeys]
    · simp [record, Server.record, isDefault_text?_iff, textKeys, nullKeys]
    · simp [record, Server.record, isDefault_text?_iff, textKeys, nullKeys]
  | flavor =>
    simp only [record, Flavor.record, List.mem_cons, List.not_mem_nil, or_false] at among
    rcases among with rfl | rfl | rfl | rfl
    · simp [record, Flavor.record, isDefault_text_iff, textKeys, nullKeys]
    · simp [record, Flavor.record, isDefault_text_iff, textKeys, nullKeys]
    · simp [record, Flavor.record, isDefault_text?_iff, textKeys, nullKeys]
    · simp [record, Flavor.record, isDefault_text?_iff, textKeys, nullKeys]
  | address =>
    simp only [record, Address.record, List.mem_cons, List.not_mem_nil, or_false] at among
    rcases among with rfl | rfl | rfl | rfl
    · cases optional
    · simp [record, Address.record, isDefault_text?_iff, textKeys, nullKeys]
    · simp [record, Address.record, isDefault_text_iff, textKeys, nullKeys]
    · simp [record, Address.record, isDefault_text?_iff, textKeys, nullKeys]

/-! ## Rewriting -/

/-- Rewriting a record in an answer does not change what the answer means. -/
theorem Rewrites.means {shape : Shape} {form other : Form} (rewrites : shape.Rewrites form other)
    {value : shape.Value} (means : shape.record.Means form value) : shape.record.Means other value := by
  obtain @⟨inner, place, part, next, reaches, rewrites⟩ := rewrites
  have present : part ≠ .null := by
    rintro rfl
    cases rewrites
  obtain ⟨inside, meansPart, elsewhere⟩ := reaches.exists_part present means
  exact elsewhere next (rewrites.means inner.lawful meansPart)

/-- Neither does any number of such steps. -/
theorem means_of_reflTransGen {shape : Shape} {form other : Form}
    (steps : Relation.ReflTransGen shape.Rewrites form other) {value : shape.Value}
    (means : shape.record.Means form value) : shape.record.Means other value := by
  induction steps with
  | refl => exact means
  | tail _ rewrites inductionHypothesis => exact rewrites.means inductionHypothesis

/-! ## Faults -/

/-- Required keys are those of required members. -/
theorem exists_required {shape : Shape} {key : String} (required : key ∈ shape.requiredKeys) :
    ∃ member ∈ shape.record.members, member.key = key ∧ member.required := by
  rw [← map_key_required, List.mem_map] at required
  obtain ⟨member, among, same⟩ := required
  obtain ⟨among, isRequired⟩ := List.mem_filter.mp among
  exact ⟨member, among, same, isRequired⟩

/-- Under the key of a text, a text is read. -/
theorem exists_text {shape : Shape} {key : String} (text : key ∈ shape.textKeys) :
    ∃ required put, Member.of key required stringValue put ∈ shape.record.members := by
  cases shape with
  | answer => cases text
  | listing => cases text
  | server =>
    simp only [textKeys, List.mem_cons, List.not_mem_nil, or_false] at text
    rcases text with rfl | rfl | rfl
    · exact ⟨_, _, .head _⟩
    · exact ⟨_, _, .tail _ (.head _)⟩
    · exact ⟨_, _, .tail _ (.tail _ (.head _))⟩
  | flavor =>
    simp only [textKeys, List.mem_cons, List.not_mem_nil, or_false] at text
    rcases text with rfl | rfl
    · exact ⟨_, _, .head _⟩
    · exact ⟨_, _, .tail _ (.head _)⟩
  | address =>
    simp only [textKeys, List.mem_cons, List.not_mem_nil, or_false] at text
    rcases text with rfl | rfl
    · exact ⟨_, _, .head _⟩
    · exact ⟨_, _, .tail _ (.tail _ (.head _))⟩

/-- A faulty record means nothing. -/
theorem Fault.not_means {shape : Shape} {form : Form} (fault : shape.Fault form) (value : shape.Value) :
    ¬shape.record.Means form value := by
  intro means
  cases fault with
  | repeated known =>
    rw [← map_key_members, List.mem_map] at known
    obtain ⟨member, among, rfl⟩ := known
    exact Record.not_means_of_repeated shape.lawful among means
  | missing required absent =>
    obtain ⟨member, among, rfl, isRequired⟩ := exists_required required
    exact Record.not_means_of_missing among isRequired absent means
  | short required position ends =>
    obtain ⟨member, among, rfl, isRequired⟩ := exists_required required
    rw [← map_key_members, List.getElem?_map] at position
    exact Record.not_means_of_short shape.lawful among isRequired position ends means
  | null text holds =>
    obtain ⟨required, put, among⟩ := exists_text text
    obtain ⟨inner, -, reads, -⟩ := holds.exists_put shape.lawful among judges_text means
    cases judges_stringValue.reads_iff.mp reads

/-- A fault is no null. -/
theorem Fault.ne_null {shape : Shape} {form : Form} (fault : shape.Fault form) : form ≠ .null := by
  cases fault with
  | null text holds => exact holds.ne_null
  | _ => exact nofun

/-- An answer with a faulty record means nothing. -/
theorem Faulty.not_means {shape : Shape} {form : Form} (faulty : shape.Faulty form)
    (value : shape.Value) : ¬shape.record.Means form value := by
  intro means
  obtain ⟨reaches, fault⟩ := faulty
  obtain ⟨inside, meansPart, -⟩ := reaches.exists_part fault.ne_null means
  exact fault.not_means inside meansPart

/-! ## Texts -/

/-- A decoder of a record does not see how the records in a text are presented. -/
structure UpToPresentation (shape : Shape) (decode : String → Except Failure shape.Value) : Prop where
  formed : ∀ ⦃body value⦄, decode body = .ok value → ∃ form, IsText body.toList form
  decodes_iff : ∀ ⦃body form⦄, IsText body.toList form → ∀ value,
    decode body = .ok value ↔ shape.record.Means form value
  rewritten : ∀ ⦃body other form next value⦄, IsText body.toList form → IsText other.toList next →
    Relation.ReflTransGen shape.Rewrites form next → decode body = .ok value → decode other = .ok value
  refused : ∀ ⦃body form⦄, IsText body.toList form → shape.Faulty form →
    ∃ failure, decode body = .error failure

/-- No reader of records sees how the records are presented. -/
theorem upToPresentation (shape : Shape) : shape.UpToPresentation (Json.decode shape.record.read) := by
  have judges := Record.judges_means shape.lawful
  constructor
  · intro body value decoded
    exact judges.exists_isText decoded
  · intro body form isText value
    exact judges.decode_iff isText
  · intro body other form next value isText isTextOther steps decoded
    have means := (judges.decode_iff isText).mp decoded
    exact (judges.decode_iff isTextOther).mpr (means_of_reflTransGen steps means)
  · intro body form isText faulty
    cases decoded : Json.decode shape.record.read body with
    | error failure => exact ⟨failure, rfl⟩
    | ok value => exact absurd ((judges.decode_iff isText).mp decoded) (faulty.not_means value)

/-- Both kinds of answers are decoded up to presentation: the order of the members of the records in an
answer, defaults left out, unknown members and lists in place of objects do not show in what is decoded,
and a faulty record keeps the answer from being decoded. The forms that texts may have are all there are,
the keys and the required keys of the records are those listed, and the defaults are the empty text, a
null, the empty object for addresses and the empty list for servers. The order and repetition of the
networks of a server do show. -/
theorem decode_upToPresentation :
    answer.UpToPresentation Server.decodeAnswer ∧ listing.UpToPresentation Listing.decode ∧
      (∀ form, ∃ body : String, IsText body.toList form) ∧
      (∀ shape : Shape, shape.record.members.map (·.key) = shape.keys ∧
        (shape.record.members.filter (·.required)).map (·.key) = shape.requiredKeys ∧
        ∀ member ∈ shape.record.members, member.required = false →
          ∀ form, shape.record.IsDefault member form ↔ shape.Default member.key form) ∧
      (∀ body place within entries server, Server.answer.Holds "server" place →
        Server.record.Holds "addresses" within →
        IsText body.toList (place (within (.object entries))) →
        Server.decodeAnswer body = .ok server → AddressGroup.Mirrors entries server.addresses) ∧
      (∀ body place within entries earlier later listing, Listing.record.Holds "servers" place →
        Server.record.Holds "addresses" within →
        IsText body.toList (place (.list (earlier ++ within (.object entries) :: later))) →
        Listing.decode body = .ok listing → ∃ server, listing.servers[earlier.length]? = some server ∧
          AddressGroup.Mirrors entries server.addresses) := by
  refine ⟨upToPresentation answer, upToPresentation listing, Form.exists_isText, fun shape => ?_, ?_, ?_⟩
  · exact ⟨shape.map_key_members, shape.map_key_required, fun _ among optional =>
      isDefault_iff among optional⟩
  · intro body place within entries server holds holdsGroups isText decoded
    have means := ((Record.judges_means Server.answer_lawful).decode_iff isText).mp decoded
    exact (Server.mirrors_addresses holdsGroups (Server.means_of_answer holds means).1).1
  · intro body place within entries earlier later listing holds holdsGroups isText decoded
    have means := ((Record.judges_means Listing.lawful).decode_iff isText).mp decoded
    obtain ⟨server, found, meansServer, -⟩ := Listing.exists_server holds means
    exact ⟨server, found, (Server.mirrors_addresses holdsGroups meansServer).1⟩

/-- An answer with a null for the addresses of its server. -/
def nullAddresses : String := "\x7b\"server\":\x7b\"id\":\"abc\",\"addresses\":null\x7d\x7d"

/-- The same answer with its server as a list, behind an unknown member that holds half of a character. -/
def unknownMember : String := "\x7b\"x\":\"\\ud800\",\"server\":[\"abc\"]\x7d"

/-- Both texts of the answer decode to the same server: the second comes from the first by writing the
server as a list and inserting the unknown member. -/
theorem decode_upToPresentation_nullAddresses :
    Server.decodeAnswer nullAddresses = .ok { id := "abc" } ∧
      Server.decodeAnswer unknownMember = .ok { id := "abc" } := by
  have decodes : Server.decodeAnswer nullAddresses = .ok { id := "abc" } := by decide
  have key : ∀ text : String, WritesString (text.toList.flatMap writtenChar) (some text) :=
    fun text => (spellsChars_written text).writesString
  have id : WritesScalar _ (.string (some "abc")) := .string (key "abc")
  have isText : IsText nullAddresses.toList (.object [(some "server",
      .object [(some "id", .string (some "abc")), (some "addresses", .null)])]) := by
    refine ⟨[], 2, _, [], blank_nil, blank_nil, .inr (.object (.part (.first blank_nil)
      (.mk (key "server") blank_nil blank_nil (.inr (.object (.part (.first blank_nil)
        (.mk (key "id") blank_nil blank_nil id) (.part (.later blank_nil blank_nil)
          (.mk (key "addresses") blank_nil blank_nil .null) (.done blank_nil))))))
      (.done blank_nil))), ?_⟩
    decide
  have isTextOther : IsText unknownMember.toList (.object [(some "x", .string none),
      (some "server", .list [.string (some "abc")])]) := by
    refine ⟨[], 2, _, [], blank_nil, blank_nil, .inr (.object (.part (.first blank_nil)
      (.mk (key "x") blank_nil blank_nil (.inl (.string writesString_none)))
      (.part (.later blank_nil blank_nil) (.mk (key "server") blank_nil blank_nil
        (.inr (.list (.part (.first blank_nil) id (.done blank_nil))))) (.done blank_nil)))), ?_⟩
    decide
  -- The null is a default, so that the list may end in front of it.
  have asList : answer.Rewrites (.object [(some "server",
      .object [(some "id", .string (some "abc")), (some "addresses", .null)])])
      (.object [(some "server", .list [.string (some "abc")])]) := by
    have reaches : answer.Reaches server fun part => .object ([] ++ (some "server", part) :: []) :=
      .inside (.server .member) .here
    refine .mk reaches (.listed ⟨[Server.record.members[0]], Server.record.members.tail, rfl,
      .cons (.inl rfl) .nil, fun member among => ?_⟩)
    have behind : member.required = false ∧ member.key ≠ "id" := by
      revert member
      simp [Server.record]
    have isDefault : ∀ form, Server.record.IsDefault member form ↔ server.Default member.key form :=
      isDefault_iff (.tail _ among) behind.1
    refine ⟨behind.1, fun form stated => (isDefault form).mpr ?_⟩
    have listed := mem_of_said stated
    simp only [List.mem_cons, Prod.mk.injEq, Option.some.injEq, List.not_mem_nil, or_false, behind.2,
      false_and, false_or] at listed
    obtain ⟨same, rfl⟩ := listed
    rw [same]
    exact .null (by simp [nullKeys])
  have withUnknown : Server.answer.Rewrites
      (.object ([] ++ [(some "server", .list [.string (some "abc")])]))
      (.object ([] ++ (some "x", .string none) :: [(some "server", .list [.string (some "abc")])])) :=
    .inserted rfl
  exact ⟨decodes, decode_upToPresentation.1.rewritten isText isTextOther
    (.tail (.single asList) (.mk .here withUnknown)) decodes⟩

end Shape

end NodeLookup
