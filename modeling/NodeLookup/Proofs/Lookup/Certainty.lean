import NodeLookup.Proofs.Lookup.Naming

/-!
# When a name leads to the right server

A name should lead to a server only if that is the one server with the name. A lookup goes by the count that
comes with the answer and takes the first server of the list, so that it depends on the cloud whether this is
so: `byName_certain_iff` is the exact condition on its answers. A list that matches the name loosely and a
list with more servers than are counted break it.
-/

namespace NodeLookup.Resolver

variable {resolver : Resolver} {name : String} {backend : Backend}

/-- A name leads only to a server that carries it and that is the only one in the list. -/
def Certain (resolver : Resolver) (name : String) (backend : Backend) : Prop :=
  ∀ server, (resolver.byName name backend).result = .ok server → server.name = name ∧
    ∃ response listing, resolver.Searched name backend response ∧
      Listing.decode response.text = .ok listing ∧ listing.servers = [server]

/-- The server that a listing leads to is the first one if one is counted. -/
theorem onlyServer_eq_ok_iff {listing : Listing} {server : Server} :
    onlyServer name listing = .ok server ↔ listing.count = some 1 ∧ listing.servers.head? = some server := by
  rw [onlyServer_eq_iff]
  obtain ⟨count?, servers⟩ := listing
  constructor
  · intro verdict
    cases verdict
    exact ⟨rfl, rfl⟩
  · rintro ⟨rfl, first⟩
    obtain ⟨others, rfl⟩ := List.head?_eq_some_iff.mp first
    exact .first server others

/-- A name leads to the first server of an answer that counts one. -/
theorem byName_eq_ok_iff {server : Server} :
    (resolver.byName name backend).result = .ok server ↔ ∃ response listing,
      resolver.Searched name backend response ∧ (200 ≤ response.status ∧ response.status ≤ 299) ∧
      Listing.decode response.text = .ok listing ∧ listing.count = some 1 ∧
      listing.servers.head? = some server := by
  constructor
  · intro found
    have judged : judgeListing name (resolver.client.listServers name backend).result = .ok server := found
    cases answer : (resolver.client.listServers name backend).result with
    | error error => simp [judgeListing, answer] at judged
    | ok listing =>
      rw [answer] at judged
      rw [Client.listServers_eq] at answer
      obtain ⟨response, searched, granted, decoded⟩ := Client.get_result_eq_ok_iff.mp answer
      exact ⟨response, listing, searched, Response.isSuccess_iff.mp granted, decoded,
        onlyServer_eq_ok_iff.mp judged⟩
  · rintro ⟨response, listing, searched, granted, decoded, first⟩
    rw [byName_result_of_decoded searched granted decoded]
    exact onlyServer_eq_ok_iff.mpr first

/-- At most one response answers a search. -/
theorem Searched.unique {response other : Response} (searched : resolver.Searched name backend response)
    (again : resolver.Searched name backend other) : response = other := by
  have same := searched.answer.symm.trans again.answer
  cases same
  rfl

/-- A name leads to the right server, if to any, exactly if every answer that counts one server lists none or
only one, which carries the name. What it leads to is the first server of an answer that counts one, and the
ID that is told for the name is the ID of that server. -/
theorem byName_certain_iff (resolver : Resolver) (name : String) (backend : Backend) :
    let found := (resolver.byName name backend).result
    let identified := ((resolver.instances backend).instanceId name).result
    (resolver.Certain name backend ↔ ∀ response listing, resolver.Searched name backend response →
      200 ≤ response.status ∧ response.status ≤ 299 → Listing.decode response.text = .ok listing →
      listing.count = some 1 →
      listing.servers = [] ∨ ∃ server, listing.servers = [server] ∧ server.name = name) ∧
    (∀ server, found = .ok server ↔ ∃ response listing,
      resolver.Searched name backend response ∧ (200 ≤ response.status ∧ response.status ≤ 299) ∧
      Listing.decode response.text = .ok listing ∧ listing.count = some 1 ∧
      listing.servers.head? = some server) ∧
    ∀ id, identified = .ok id ↔ ∃ server, found = .ok server ∧ server.id = id := by
  intro found identified
  refine ⟨⟨?_, ?_⟩, fun server => byName_eq_ok_iff, fun id => instanceId_eq_ok_iff⟩
  · intro certain response listing searched granted decoded counted
    cases servers : listing.servers with
    | nil => exact .inl rfl
    | cons server others =>
      have leads : found = .ok server :=
        byName_eq_ok_iff.mpr ⟨response, listing, searched, granted, decoded, counted, by simp [servers]⟩
      obtain ⟨named, other, same, again, decodedOther, alone⟩ := certain server leads
      cases searched.unique again
      cases decoded.symm.trans decodedOther
      exact .inr ⟨server, servers.symm.trans alone, named⟩
  · intro unmistakable server leads
    obtain ⟨response, listing, searched, granted, decoded, counted, first⟩ := byName_eq_ok_iff.mp leads
    rcases unmistakable response listing searched granted decoded counted with empty | ⟨other, alone, named⟩
    · simp [empty] at first
    · obtain rfl : other = server := by simpa [alone] using first
      exact ⟨named, response, listing, searched, decoded, alone⟩

/-- An answer that counts one server of the name and lists it. -/
def exactMatch : String :=
  "\x7b\"count\":1,\"servers\":[\x7b\"id\":\"a\",\"name\":\"node-1\"\x7d]\x7d"

/-- An answer that counts one server and lists one with a longer name. -/
def looseMatch : String :=
  "\x7b\"count\":1,\"servers\":[\x7b\"id\":\"b\",\"name\":\"node-10\"\x7d]\x7d"

/-- An answer that counts one server and lists two of the name. -/
def twoMatches : String :=
  "\x7b\"count\":1,\"servers\":[\x7b\"id\":\"a\",\"name\":\"node-1\"\x7d," ++
    "\x7b\"id\":\"b\",\"name\":\"node-1\"\x7d]\x7d"

/-- The search for the name can be sent. -/
theorem sendable_node :
    (atRoot.client.request (atRoot.client.listingUrl "node-1")).isSendable = true := by decide

/-- A server that is counted and listed under its own name is found, and the name is certain. -/
theorem byName_certain_iff_exactMatch :
    (atRoot.byName "node-1" fun _ => .answered (.granting exactMatch)).result =
      .ok { id := "a", name := "node-1" } ∧
    ((atRoot.instances fun _ => .answered (.granting exactMatch)).instanceId "node-1").result = .ok "a" ∧
    atRoot.Certain "node-1" fun _ => .answered (.granting exactMatch) := by
  have decoded : Listing.decode exactMatch = .ok ⟨some 1, [{ id := "a", name := "node-1" }]⟩ := by decide
  have found := byName_result_of_granting sendable_node (by decide) decoded
  obtain ⟨certain, -, identified⟩ :=
    byName_certain_iff atRoot "node-1" fun _ => .answered (.granting exactMatch)
  refine ⟨found, (identified "a").mpr ⟨_, found, rfl⟩, certain.mpr ?_⟩
  rintro response listing searched - again -
  obtain rfl := (searched_granting sendable_node).unique searched
  rw [Response.text_granting (by decide), decoded] at again
  cases again
  exact .inr ⟨_, rfl, rfl⟩

/-- A server of another name is found, and so is the first of two servers of the name, and its ID is told. -/
theorem looseMatch_found :
    ((atRoot.byName "node-1" fun _ => .answered (.granting looseMatch)).result =
        .ok { id := "b", name := "node-10" } ∧
      ((atRoot.instances fun _ => .answered (.granting looseMatch)).instanceId "node-1").result = .ok "b" ∧
      ¬atRoot.Certain "node-1" fun _ => .answered (.granting looseMatch)) ∧
    (atRoot.byName "node-1" fun _ => .answered (.granting twoMatches)).result =
        .ok { id := "a", name := "node-1" } ∧
      ((atRoot.instances fun _ => .answered (.granting twoMatches)).instanceId "node-1").result = .ok "a" ∧
      ¬atRoot.Certain "node-1" fun _ => .answered (.granting twoMatches) := by
  have decodedLoose : Listing.decode looseMatch = .ok ⟨some 1, [{ id := "b", name := "node-10" }]⟩ := by decide
  have decodedTwo : Listing.decode twoMatches =
      .ok ⟨some 1, [{ id := "a", name := "node-1" }, { id := "b", name := "node-1" }]⟩ := by decide
  have loose := byName_result_of_granting sendable_node (by decide) decodedLoose
  have two := byName_result_of_granting sendable_node (by decide) decodedTwo
  refine ⟨⟨loose, instanceId_eq_ok_iff.mpr ⟨_, loose, rfl⟩, ?_⟩, two,
    instanceId_eq_ok_iff.mpr ⟨_, two, rfl⟩, ?_⟩
  · intro certain
    have named : "node-10" = "node-1" := (certain _ loose).1
    contradiction
  · intro certain
    obtain ⟨-, response, listing, searched, again, alone⟩ := certain _ two
    obtain rfl := (searched_granting sendable_node).unique searched
    rw [Response.text_granting (by decide), decodedTwo] at again
    cases again
    cases alone

end NodeLookup.Resolver
