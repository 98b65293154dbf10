import NodeLookup.Proofs.Client.Answering
import NodeLookup.Proofs.Url.Appending
import NodeLookup.Proofs.Url.QueryPairs

/-!
# The name in a search

A client searches for a name by one pair behind the query of its endpoint. `listingUrl_roundTrip` reads
that pair back, whatever the name holds and whatever query and fragment the endpoint has, and shows that
the name reaches nothing else of the address.
-/

namespace NodeLookup

namespace Url

variable {url : Url} {name first second : List Char}

/-- Appending a pair touches the query alone, and puts the pair behind those that were there. -/
theorem pairs_appendPair (url : Url) (name value : List Char) :
    (url.appendPair name value).pairs = url.pairs ++ [(name, value)] := by
  simp only [pairs, appendPair, Option.getD_some]
  exact pairsOf_appendPairTo name value url.query

/-- A URL with a pair appended has its query from the value alone. -/
theorem value_inj_of_query
    (same : appendPairTo url.query name first = appendPairTo url.query name second) :
    first = second := by
  have pairs := congrArg pairsOf same
  rw [pairsOf_appendPairTo, pairsOf_appendPairTo] at pairs
  have last := List.append_cancel_left pairs
  simpa using last

/-- No two values of a pair give a URL the same text. -/
theorem value_inj_of_render
    (same : (url.appendPair name first).render = (url.appendPair name second).render) :
    first = second := by
  apply value_inj_of_query
  simpa [render, appendPair, renderAuthority, renderGuard, renderQuery, renderFragment] using same

/-- No two values of a pair make for the same request line either, in which there is no fragment. -/
theorem value_inj_of_renderTarget
    (same : (url.appendPair name first).renderTarget = (url.appendPair name second).renderTarget) :
    first = second := by
  apply value_inj_of_query
  simpa [renderTarget, appendPair, renderAuthority, renderGuard, renderQuery] using same

end Url

namespace Client

/-- A search that can be sent asks for the list of servers of the name, and for nothing else. -/
theorem asksOnly_listServers {client : Client} {name : String}
    (sendable : (client.request (client.listingUrl name)).isSendable = true) :
    AsksOnly (client.request (client.listingUrl name)) (client.listServers name) :=
  asksOnly_of_sendable sendable fun backend => by rw [listServers_eq, get]

/-- What a client asks for when it searches for a name is the list of servers below its endpoint, and it
does ask for it if the request can be sent. The query of the list holds the pairs of the endpoint and then
the name, whatever the name is; nothing else of the address depends on the name, and no other name has the
same address. -/
theorem listingUrl_roundTrip (client : Client) (name : String) :
    ((client.request (client.listingUrl name)).isSendable = true →
      AsksOnly (client.request (client.listingUrl name)) (client.listServers name)) ∧
    (∀ (backend : Backend), ∀ request ∈ (client.listServers name backend).requests,
      request.url = client.listingUrl name) ∧
    (client.listingUrl name).pairs = client.endpoint.pairs ++ [("name".toList, name.toList)] ∧
    ((client.listingUrl name).scheme = client.endpoint.scheme ∧
      (client.listingUrl name).authority = client.endpoint.authority ∧
      (client.listingUrl name).path = (client.resourceUrl "detail").path ∧
      (client.listingUrl name).fragment = client.endpoint.fragment) ∧
    ('#' ∈ (client.listingUrl name).query.getD [] → '#' ∈ client.endpoint.query.getD []) ∧
    ∀ other : String, (client.listingUrl other).render = (client.listingUrl name).render ∨
      (client.listingUrl other).renderTarget = (client.listingUrl name).renderTarget →
        other = name := by
  have query : (client.resourceUrl "detail").query = client.endpoint.query := Url.query_extend _ _
  have asked : ∀ backend, ∀ request ∈ (client.listServers name backend).requests,
      request.url = client.listingUrl name := by
    intro backend request received
    rw [listServers_eq] at received
    exact congrArg Request.url (requests_get received)
  have pairs : (client.listingUrl name).pairs =
      client.endpoint.pairs ++ [("name".toList, name.toList)] := by
    rw [listingUrl, Url.pairs_appendPair, Url.pairs, query, ← Url.pairs]
  have unhashed : '#' ∈ (client.listingUrl name).query.getD [] →
      '#' ∈ client.endpoint.query.getD [] := by
    intro member
    rw [← query]
    exact Url.hash_of_mem_appendPairTo _ _ member
  have unique : ∀ other : String, (client.listingUrl other).render = (client.listingUrl name).render ∨
      (client.listingUrl other).renderTarget = (client.listingUrl name).renderTarget →
        other = name := by
    rintro other (same | same)
    · exact String.toList_inj.mp (Url.value_inj_of_render same)
    · exact String.toList_inj.mp (Url.value_inj_of_renderTarget same)
  exact ⟨asksOnly_listServers, asked, pairs,
    ⟨Url.scheme_extend _ _, Url.authority_extend _ _, rfl, Url.fragment_extend _ _⟩, unhashed, unique⟩

/-- A client whose endpoint asks for a name itself, with an open query and a fragment. -/
def askingItself : Client :=
  let endpoint := { (atRoot "p").endpoint with
    query := some "name=a+b&".toList, fragment := some ['f'] }
  { atRoot "p" with endpoint, base := rfl }

/-- A name that spells a pair and a fragment is searched for as it is, beside the endpoint's own. -/
theorem listingUrl_roundTrip_separators :
    AsksOnly (askingItself.request (askingItself.listingUrl "x&name=é#+"))
        (askingItself.listServers "x&name=é#+") ∧
      (askingItself.listingUrl "x&name=é#+").pairs =
        [("name".toList, "a b".toList), ("name".toList, "x&name=é#+".toList)] ∧
      (askingItself.listingUrl "x&name=é#+").fragment = some ['f'] ∧
      (askingItself.listingUrl "x").renderTarget ≠
        (askingItself.listingUrl "x&name=é#+").renderTarget := by
  have own : askingItself.endpoint.pairs = [("name".toList, "a b".toList)] := by decide +kernel
  obtain ⟨asks, -, pairs, ⟨-, -, -, fragment⟩, -, unique⟩ :=
    listingUrl_roundTrip askingItself "x&name=é#+"
  refine ⟨asks (by decide +kernel), ?_, fragment, fun same => ?_⟩
  · rw [pairs, own, List.singleton_append]
  · exact absurd (unique "x" (.inr same)) (by decide)

end Client

end NodeLookup
