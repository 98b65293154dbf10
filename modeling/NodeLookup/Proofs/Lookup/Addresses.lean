import NodeLookup.Proofs.Json.Fields
import NodeLookup.Proofs.Lookup.Agreement
import NodeLookup.Proofs.Lookup.Containment
import NodeLookup.Proofs.Server.Shapes

/-!
# The addresses of a node, from the answer to the reply

The addresses in a reply go through two stages: an answer is decoded into a server with its address groups,
and these are sorted out into addresses of the node. `Json.Form.nodeAddresses` reads them off the form of the
answer directly, from the first member of the object of addresses to the last and through the list of each
member, and `nodeAddressesByProviderId_walk` is that the two stages come to the same.
-/

namespace NodeLookup

open Json

/-! ## The walk -/

namespace Json.Form

/-- The text of a string. -/
def text? : Form → Option String
  | .string content => content
  | _ => none

/-- The items of a list. -/
def items : Form → List Form
  | .list items => items
  | _ => []

/-- The members of an object. -/
def entries : Form → List (Option String × Form)
  | .object entries => entries
  | _ => []

/-- How an address is attached, for the two ways that make it one of a node. -/
def kind? (address : Form) : Option AddressKind := do
  let tag ← (← address.member? "OS-EXT-IPS:type" 2).text?
  if tag = "fixed" then some .internal
  else if tag = "floating" then some .external
  else none

/-- The address of a node that an item in the list of a network is. -/
def nodeAddress? (address : Form) : Option NodeAddress := do
  let kind ← address.kind?
  let text ← (← address.member? "addr" 0).text?
  some ⟨kind, text⟩

/-- The addresses of a node among the networks of its server, member by member and item by item. -/
def networkAddresses (networks : List (Option String × Form)) : List NodeAddress :=
  networks.flatMap fun network => network.2.items.filterMap nodeAddress?

/-- The networks of the server in an answer, none if it has no object of them. -/
def networks (answer : Form) : List (Option String × Form) :=
  (((answer.member? "server" 0).bind fun server => server.member? "addresses" 3).map entries).getD []

/-- A form has a text exactly if it is a string with that content. -/
theorem text?_eq_some_iff {form : Form} {text : String} :
    form.text? = some text ↔ form = .string (some text) := by
  cases form <;> simp [text?]

/-- An item has a kind exactly if its tag is one of two. -/
theorem kind?_eq_some_iff {address : Form} {kind : AddressKind} : address.kind? = some kind ↔
    ∃ tag, address.member? "OS-EXT-IPS:type" 2 = some (.string (some tag)) ∧
      (tag = "fixed" ∧ kind = .internal ∨ tag = "floating" ∧ kind = .external) := by
  have tagged : ∀ tag : String, (if tag = "fixed" then some AddressKind.internal
      else if tag = "floating" then some .external else none) = some kind ↔
        tag = "fixed" ∧ kind = .internal ∨ tag = "floating" ∧ kind = .external := by
    intro tag
    by_cases fixed : tag = "fixed"
    · simp [fixed, eq_comm]
    by_cases floating : tag = "floating"
    · simp [floating, eq_comm]
    · simp [fixed, floating]
  simp only [kind?, Option.bind_eq_bind, Option.bind_eq_some_iff, text?_eq_some_iff, tagged]
  constructor
  · rintro ⟨_, stated, tag, rfl, isKind⟩
    exact ⟨tag, stated, isKind⟩
  · rintro ⟨tag, stated, isKind⟩
    exact ⟨_, stated, tag, rfl, isKind⟩

/-- An item is an address of a node exactly if it has a kind and a text, and it is that text as it stands. -/
theorem nodeAddress?_eq_some_iff {item : Form} {address : NodeAddress} :
    item.nodeAddress? = some address ↔ item.kind? = some address.kind ∧
      item.member? "addr" 0 = some (.string (some address.address)) := by
  simp only [nodeAddress?, Option.bind_eq_bind, Option.bind_eq_some_iff, text?_eq_some_iff,
    Option.some.injEq]
  constructor
  · rintro ⟨kind, isKind, _, stated, text, rfl, rfl⟩
    exact ⟨isKind, stated⟩
  · rintro ⟨isKind, stated⟩
    exact ⟨_, isKind, _, stated, _, rfl, rfl⟩

/-- The addresses among networks that stand one behind the other stand one behind the other. -/
theorem networkAddresses_append (first second : List (Option String × Form)) :
    networkAddresses (first ++ second) = networkAddresses first ++ networkAddresses second :=
  List.flatMap_append

end Json.Form

/-! ## Addresses -/

/-- The text of an address is decided by its member. -/
theorem Address.decides_addr : Address.record.Decides "addr" 0 stringValue (·.addr) where
  position := rfl
  puts := ⟨true, _, List.mem_cons_self, fun _ _ => rfl⟩
  keeps := by simp [Address.record, Member.keeps_of, judges_text, judges_text?]

/-- So is the way that it is attached. -/
theorem Address.decides_attachment :
    Address.record.Decides "OS-EXT-IPS:type" 2 stringValue (·.attachment) where
  position := rfl
  puts := ⟨false, _, .tail _ (.tail _ List.mem_cons_self), fun _ _ => rfl⟩
  keeps := by simp [Address.record, Member.keeps_of, judges_text, judges_text?]

/-- The addresses of a server are decided by their member. -/
theorem Server.decides_addresses :
    Server.record.Decides "addresses" 3 AddressGroup.read (·.addresses) where
  position := rfl
  puts := ⟨false, _, .tail _ (.tail _ (.tail _ List.mem_cons_self)), fun _ _ => rfl⟩
  keeps := by
    simp [Server.record, Member.keeps_of, judges_text, judges_text?, Flavor.judges_optional]

/-- The server in an answer is decided by the only member. -/
theorem Server.decides_server : Server.answer.Decides "server" 0 Server.record.read fun server => server where
  position := rfl
  puts := ⟨true, _, List.mem_cons_self, fun _ _ => rfl⟩
  keeps := by simp [Server.answer]

/-- The text of an address stands in its form. -/
theorem Address.member?_addr {form : Form} {address : Address} (means : Address.record.Means form address) :
    form.member? "addr" 0 = some (.string (some address.addr)) := by
  have present : form.member? "addr" 0 ≠ none :=
    means.member?_ne_none Address.lawful List.mem_cons_self rfl rfl
  exact (Address.decides_addr.of_means_text Address.lawful means).resolve_left fun absent =>
    present absent.1

/-- Only two ways to be attached make a kind. -/
theorem Address.kind?_eq (address : Address) : address.kind? =
    if address.attachment = "fixed" then some .internal
    else if address.attachment = "floating" then some .external else none := by
  by_cases fixed : address.attachment = "fixed"
  · simp [Address.kind?, fixed]
  by_cases floating : address.attachment = "floating"
  · simp [Address.kind?, floating]
  · simp [Address.kind?, fixed, floating]

/-- The kind of an address is that of its form. -/
theorem Address.kind?_of_means {form : Form} {address : Address}
    (means : Address.record.Means form address) : form.kind? = address.kind? := by
  have attached : (form.member? "OS-EXT-IPS:type" 2 = none ∧ address.attachment = "") ∨
      form.member? "OS-EXT-IPS:type" 2 = some (.string (some address.attachment)) :=
    Address.decides_attachment.of_means_text Address.lawful means
  rcases attached with ⟨absent, blank⟩ | stated
  · simp [Form.kind?, Address.kind?, absent, blank]
  · rw [Form.kind?, Address.kind?_eq, stated]
    rfl

/-- The form of an address is the address of a node that the address is. -/
theorem Address.nodeAddress?_of_means {form : Form} {address : Address}
    (means : Address.record.Means form address) : form.nodeAddress? = address.toNodeAddress? := by
  rw [Form.nodeAddress?, Address.kind?_of_means means, Address.member?_addr means, Address.toNodeAddress?]
  cases address.kind? <;> rfl

/-- The items of a list are the addresses of a node that the addresses in it are. -/
theorem Address.filterMap_of_reads {form : Form} {addresses : List Address}
    (reads : Reads (listOf Address.record.read) form addresses) :
    form.items.filterMap Form.nodeAddress? = addresses.filterMap Address.toNodeAddress? := by
  obtain ⟨forms, rfl, all⟩ := (judges_listOf (Record.judges_means Address.lawful)).reads_iff.mp reads
  clear reads
  rw [Form.items]
  induction all with
  | nil => rfl
  | cons means _ inductionHypothesis =>
    rw [List.filterMap_cons, List.filterMap_cons, Address.nodeAddress?_of_means means, inductionHypothesis]

/-- Address groups have the addresses that the networks that they mirror have. -/
theorem AddressGroup.Mirrors.networkAddresses_eq {networks : List (Option String × Form)}
    {groups : List AddressGroup} (mirrors : AddressGroup.Mirrors networks groups) :
    Form.networkAddresses networks =
      groups.flatMap fun group => group.addresses.filterMap Address.toNodeAddress? := by
  rw [Form.networkAddresses]
  induction mirrors with
  | nil => rfl
  | cons mirror _ inductionHypothesis =>
    rw [List.flatMap_cons, List.flatMap_cons, Address.filterMap_of_reads mirror.2, inductionHypothesis]

/-- A server has the addresses that stand in its form. -/
theorem Server.nodeAddresses_of_means {form : Form} {server : Server}
    (means : Server.record.Means form server) :
    Form.networkAddresses (((form.member? "addresses" 3).map Form.entries).getD []) =
      server.nodeAddresses := by
  rw [Server.nodeAddresses]
  obtain ⟨absent, blank⟩ | ⟨inner, stated, reads⟩ := Server.decides_addresses.of_means Server.lawful
    AddressGroup.judges_read.judgesForms means
  · have none : server.addresses = [] := blank
    rw [absent, none]
    rfl
  · rw [stated]
    obtain ⟨rfl, none⟩ | ⟨networks, rfl, mirrors⟩ := AddressGroup.judges_read.reads_iff.mp reads
    · rw [none]
      rfl
    · exact mirrors.networkAddresses_eq

/-- The form of an answer holds that of its server. -/
theorem Server.exists_record_of_answer {form : Form} {server : Server}
    (means : Server.answer.Means form server) :
    ∃ record, form.member? "server" 0 = some record ∧ Server.record.Means record server := by
  have present : form.member? "server" 0 ≠ none :=
    means.member?_ne_none Server.answer_lawful List.mem_cons_self rfl rfl
  obtain ⟨absent, -⟩ | ⟨inner, stated, reads⟩ :=
    Server.decides_server.of_means Server.answer_lawful Server.judges_read means
  · exact absurd absent present
  · exact ⟨inner, stated, (Record.judges_means Server.lawful).reads_iff.mp reads⟩

/-- The server that an answer means has the addresses that stand in the form of the answer. -/
theorem Server.nodeAddresses_of_answer {form : Form} {server : Server}
    (means : Server.answer.Means form server) :
    Form.networkAddresses form.networks = server.nodeAddresses := by
  obtain ⟨record, stated, meansServer⟩ := Server.exists_record_of_answer means
  rw [Form.networks, stated]
  exact Server.nodeAddresses_of_means meansServer

/-! ## The reply -/

namespace Resolver

variable {resolver : Resolver} {providerId : String} {backend : Backend}

/-- A granted answer that can be read leads to its server. -/
theorem byProviderId_of_decoded {response : Response} {server : Server}
    (answered : resolver.Answered providerId backend response)
    (granted : 200 ≤ response.status ∧ response.status ≤ 299)
    (decoded : Server.decodeAnswer response.text = .ok server) :
    (resolver.byProviderId providerId backend).result = .ok server := by
  have accepted : namesNoServer (resolver.serverId providerId) = false :=
    Bool.eq_false_iff.mpr (mt namesNoServer_iff.mp answered.namesServer)
  rw [byProviderId_of_namesServer accepted, Exchanged.result_map, judgeServer_eq_ok_iff, Client.showServer_eq,
    Client.get_result_eq_ok_iff]
  exact ⟨response, answered.answered, Response.isSuccess_iff.mpr granted, decoded⟩

/-- The addresses that are told for a granted answer that can be read are those that a walk through the answer
comes by: member by member of its networks, a network that is repeated at each of its places, and item by item
of their lists. An item is told exactly if it is tagged as fixed or as floating, with its text as it stands.
The addresses of networks that stand one behind the other are told one behind the other. -/
theorem nodeAddressesByProviderId_walk {response : Response} {server : Server}
    (answered : resolver.Answered providerId backend response)
    (granted : 200 ≤ response.status ∧ response.status ≤ 299)
    (decoded : Server.decodeAnswer response.text = .ok server) :
    let told := ((resolver.instances backend).nodeAddressesByProviderId providerId).result
    (∃ form, IsText response.text.toList form) ∧
    (∀ form, IsText response.text.toList form → told = .ok (Form.networkAddresses form.networks) ∧
      ∀ first second, form.networks = first ++ second →
        told = .ok (Form.networkAddresses first ++ Form.networkAddresses second)) ∧
    (∀ item address, Form.nodeAddress? item = some address ↔
      (∃ tag, item.member? "OS-EXT-IPS:type" 2 = some (.string (some tag)) ∧
        (tag = "fixed" ∧ address.kind = .internal ∨ tag = "floating" ∧ address.kind = .external)) ∧
      item.member? "addr" 0 = some (.string (some address.address))) ∧
    ∀ first second : List AddressGroup, { server with addresses := first ++ second }.nodeAddresses =
      { server with addresses := first }.nodeAddresses ++
        { server with addresses := second }.nodeAddresses := by
  intro told
  have judges := Record.judges_means Server.answer_lawful
  have listed : told = .ok server.nodeAddresses :=
    reply_of_found (byProviderId_of_decoded answered granted decoded)
  refine ⟨judges.exists_isText decoded, fun form isText => ?_, fun item address => ?_, fun first second => ?_⟩
  · have walked : told = .ok (Form.networkAddresses form.networks) := by
      rw [listed, Server.nodeAddresses_of_answer ((judges.decode_iff isText).mp decoded)]
    refine ⟨walked, fun first second parts => ?_⟩
    rw [walked, parts, Form.networkAddresses_append]
  · rw [Form.nodeAddress?_eq_some_iff, Form.kind?_eq_some_iff]
  · exact List.flatMap_append

/-- An answer in which one network occurs twice, and one of its addresses is attached in neither way. Each
address is written as a list. -/
def repeatedNetwork : String :=
  "\x7b\"server\":\x7b\"id\":\"a\",\"addresses\":\x7b\"n\":[[\"2\",null,\"floating\"]]," ++
    "\"n\":[[\"3\",null,\"x\"],[\"2\",null,\"floating\"],[\"1\",null,\"fixed\"]]\x7d\x7d\x7d"

/-- What is told are the addresses that are attached, as often as they occur and in the order in which they
do. -/
theorem nodeAddressesByProviderId_walk_repeated :
    ((atRoot.instances fun _ => .answered (.granting repeatedNetwork)).nodeAddressesByProviderId
      "huaweicloud://a").result =
        .ok [⟨.external, "2"⟩, ⟨.external, "2"⟩, ⟨.internal, "1"⟩] := by
  have text : (Response.granting repeatedNetwork).text = repeatedNetwork :=
    Response.text_granting (by decide +kernel)
  have answered : atRoot.Answered "huaweicloud://a" (fun _ => .answered (.granting repeatedNetwork))
      (.granting repeatedNetwork) := ⟨by decide, by decide, rfl⟩
  have key : ∀ text : String, WritesString (text.toList.flatMap writtenChar) (some text) :=
    fun text => (spellsChars_written text).writesString
  have address := fun addr tag : String =>
    (.inr (.list (.part (.first blank_nil) (.string (key addr)) (.part (.later blank_nil blank_nil) .null
      (.part (.later blank_nil blank_nil) (.string (key tag)) (.done blank_nil))))) :
      Writes 1 _ (.list [.string (some addr), .null, .string (some tag)]))
  have isText : IsText (Response.granting repeatedNetwork).text.toList
      (.object [(some "server", .object [(some "id", .string (some "a")), (some "addresses", .object [
        (some "n", .list [.list [.string (some "2"), .null, .string (some "floating")]]),
        (some "n", .list [.list [.string (some "3"), .null, .string (some "x")],
          .list [.string (some "2"), .null, .string (some "floating")],
          .list [.string (some "1"), .null, .string (some "fixed")]])])])]) := by
    rw [text]
    refine ⟨[], 5, _, [], blank_nil, blank_nil, .inr (.object (.part (.first blank_nil)
      (.mk (key "server") blank_nil blank_nil (.inr (.object (.part (.first blank_nil)
        (.mk (key "id") blank_nil blank_nil (.inl (.string (key "a")))) (.part (.later blank_nil blank_nil)
        (.mk (key "addresses") blank_nil blank_nil (.inr (.object (.part (.first blank_nil)
          (.mk (key "n") blank_nil blank_nil (.inr (.list (.part (.first blank_nil)
            (address "2" "floating") (.done blank_nil))))) (.part (.later blank_nil blank_nil)
          (.mk (key "n") blank_nil blank_nil (.inr (.list (.part (.first blank_nil)
            (address "3" "x") (.part (.later blank_nil blank_nil) (address "2" "floating")
            (.part (.later blank_nil blank_nil) (address "1" "fixed") (.done blank_nil)))))))
          (.done blank_nil)))))) (.done blank_nil)))))) (.done blank_nil))), ?_⟩
    decide +kernel
  have decoded : Server.decodeAnswer (Response.granting repeatedNetwork).text = .ok {
      id := "a", addresses := [⟨"n", [{ addr := "2", attachment := "floating" }]⟩,
        ⟨"n", [{ addr := "3", attachment := "x" }, { addr := "2", attachment := "floating" },
          { addr := "1", attachment := "fixed" }]⟩] } := by
    rw [text]
    decide +kernel
  obtain ⟨-, walked, -⟩ := nodeAddressesByProviderId_walk answered Response.status_granting decoded
  exact (walked _ isText).1

end Resolver

end NodeLookup
