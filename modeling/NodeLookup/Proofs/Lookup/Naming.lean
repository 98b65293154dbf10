import NodeLookup.Proofs.Lookup.Agreement
import NodeLookup.Proofs.Lookup.Containment
import NodeLookup.Proofs.Server.Listing

/-!
# What a lookup by name comes to

A search for a name can fail in the network, at the cloud or while its answer is read, and an answer that is
read holds a count and a list of servers that may contradict each other. `Concludes` has a rule for each of
these, and `byName_concludes` is that a lookup by name comes to exactly what the rules allow, that a count is
never taken for another one, and what becomes of the lookup in a reply to the cluster.
-/

namespace NodeLookup.Resolver

open Json

variable {resolver : Resolver} {name : String} {backend : Backend}

/-- The backend answers the search for a name. -/
abbrev Searched (resolver : Resolver) (name : String) (backend : Backend) (response : Response) : Prop :=
  resolver.client.Answered (resolver.client.listingUrl name) backend response

/-- What a count and the servers that are listed with it come to under a name. -/
inductive Verdict (name : String) : Option Nat → List Server → Except LookupError Server → Prop where
  | uncounted (servers : List Server) : Verdict name none servers (.error (.notFound name))
  | zero (servers : List Server) : Verdict name (some 0) servers (.error (.notFound name))
  | unlisted : Verdict name (some 1) [] (.error (.notFound name))
  | first (server : Server) (others : List Server) : Verdict name (some 1) (server :: others) (.ok server)
  /-- If several are counted, the name is ambiguous by as many, whatever is listed. -/
  | several {count : Nat} (several : 2 ≤ count) (servers : List Server) :
      Verdict name (some count) servers (.error (.ambiguous name count))

/-- What a lookup by name comes to. -/
inductive Concludes (resolver : Resolver) (name : String) (backend : Backend) :
    Except LookupError Server → Prop where
  | unanswered (unanswered : ∀ response, ¬resolver.Searched name backend response) :
      Concludes resolver name backend (.error (.client name .transport))
  | refused {response : Response} (searched : resolver.Searched name backend response)
      (refused : ¬(200 ≤ response.status ∧ response.status ≤ 299)) :
      Concludes resolver name backend (.error (.client name (.api response.status response.text)))
  | unreadable {response : Response} {failure : Failure} (searched : resolver.Searched name backend response)
      (granted : 200 ≤ response.status ∧ response.status ≤ 299)
      (unreadable : Listing.decode response.text = .error failure) :
      Concludes resolver name backend (.error (.client name
        (.undecodable (String.ofList (resolver.client.listingUrl name).render) failure)))
  | listed {response : Response} {form : Form} {listing : Listing} {outcome : Except LookupError Server}
      (searched : resolver.Searched name backend response)
      (granted : 200 ≤ response.status ∧ response.status ≤ 299)
      (isText : IsText response.text.toList form) (states : Listing.States form listing)
      (verdict : Verdict name listing.count listing.servers outcome) :
      Concludes resolver name backend outcome

/-- A listing is judged by its verdict. -/
theorem onlyServer_eq_iff {listing : Listing} {outcome : Except LookupError Server} :
    onlyServer name listing = outcome ↔ Verdict name listing.count listing.servers outcome := by
  obtain ⟨count?, servers⟩ := listing
  constructor
  · rintro rfl
    match count?, servers with
    | none, servers => exact .uncounted servers
    | some 0, servers => exact .zero servers
    | some 1, [] => exact .unlisted
    | some 1, server :: others => exact .first server others
    | some (count + 2), servers => exact .several (Nat.le_add_left 2 count) servers
  · intro verdict
    cases verdict with
    | uncounted => rfl
    | zero => rfl
    | unlisted => rfl
    | first => rfl
    | @several count several =>
      obtain ⟨more, rfl⟩ := Nat.exists_eq_add_of_le' several
      rfl

/-- A lookup by name judges what the client makes of the search. -/
theorem byName_result (resolver : Resolver) (name : String) (backend : Backend) :
    (resolver.byName name backend).result =
      judgeListing name (resolver.client.listServers name backend).result := rfl

/-- Whatever a lookup by name comes to is allowed. -/
theorem concludes_byName (resolver : Resolver) (name : String) (backend : Backend) :
    resolver.Concludes name backend (resolver.byName name backend).result := by
  rw [byName_result, Client.listServers_eq]
  by_cases answered : ∃ response, resolver.Searched name backend response
  · obtain ⟨response, searched⟩ := answered
    rw [Client.get_result_of_answered searched, Client.interpret]
    split
    · next granted =>
      have granted := Response.isSuccess_iff.mp granted
      split
      · next listing decoded =>
        obtain ⟨form, isText, states⟩ := Listing.exists_states decoded
        exact .listed searched granted isText states (onlyServer_eq_iff.mp rfl)
      · next failure unreadable => exact .unreadable searched granted unreadable
    · next refused => exact .refused searched fun granted => refused (Response.isSuccess_iff.mpr granted)
  · have unanswered := not_exists.mp answered
    rw [Client.get_result_of_unanswered unanswered]
    exact .unanswered unanswered

/-- What an answer to a search is judged to be. -/
theorem byName_result_of_searched {response : Response} (searched : resolver.Searched name backend response) :
    (resolver.byName name backend).result = judgeListing name
      (Client.interpret (resolver.client.listingUrl name) Listing.decode (.answered response)) := by
  rw [byName_result, Client.listServers_eq, Client.get_result_of_answered searched]

/-- An answer that is granted and can be read is judged by its listing. -/
theorem byName_result_of_decoded {response : Response} {listing : Listing}
    (searched : resolver.Searched name backend response)
    (granted : 200 ≤ response.status ∧ response.status ≤ 299)
    (decoded : Listing.decode response.text = .ok listing) :
    (resolver.byName name backend).result = onlyServer name listing := by
  rw [byName_result_of_searched searched, Client.interpret, if_pos (Response.isSuccess_iff.mpr granted),
    decoded]
  rfl

/-- A lookup by name comes to whatever is allowed. -/
theorem Concludes.byName_eq {outcome : Except LookupError Server}
    (concludes : resolver.Concludes name backend outcome) :
    (resolver.byName name backend).result = outcome := by
  cases concludes with
  | unanswered unanswered =>
    rw [byName_result, Client.listServers_eq, Client.get_result_of_unanswered unanswered]
    rfl
  | refused searched refused =>
    rw [byName_result_of_searched searched, Client.interpret,
      if_neg (mt Response.isSuccess_iff.mp refused)]
    rfl
  | unreadable searched granted unreadable =>
    rw [byName_result_of_searched searched, Client.interpret, if_pos (Response.isSuccess_iff.mpr granted),
      unreadable]
    rfl
  | listed searched granted isText states verdict =>
    rw [byName_result_of_decoded searched granted ((Listing.decode_eq_ok_iff isText).mpr states)]
    exact onlyServer_eq_iff.mpr verdict

/-- No other name is reported to be missing than the one that is looked up. -/
theorem Verdict.key_eq {key : String} {count? : Option Nat} {servers : List Server}
    (verdict : Verdict name count? servers (.error (.notFound key))) : key = name := by
  cases verdict <;> rfl

/-- So it is with the whole lookup. -/
theorem Concludes.key_eq {key : String}
    (concludes : resolver.Concludes name backend (.error (.notFound key))) : key = name := by
  cases concludes with
  | listed searched granted isText states verdict => exact verdict.key_eq

/-- What is told for a name is the ID of the server that is found, or what the failed lookup means. -/
theorem instanceId_result (resolver : Resolver) (name : String) (backend : Backend) :
    ((resolver.instances backend).instanceId name).result =
      match (resolver.byName name backend).result with
      | .ok server => .ok server.id
      | .error error => .error (.ofLookup error) := by
  split
  · next found => exact reply_of_found found
  · next failed => exact reply_of_error failed

/-- A failed lookup means that there is no instance exactly if no server has the name that is looked up. -/
theorem Concludes.ofLookup_eq_notFound_iff {error : LookupError}
    (concludes : resolver.Concludes name backend (.error error)) :
    ContractError.ofLookup error = .instanceNotFound ↔ error = .notFound name := by
  cases error with
  | notFound key =>
    obtain rfl := concludes.key_eq
    simp [ContractError.ofLookup]
  | _ => simp [ContractError.ofLookup]

/-- Every other failure is passed on as it is. -/
theorem Concludes.ofLookup_eq_other_iff {error cause : LookupError}
    (concludes : resolver.Concludes name backend (.error error)) :
    ContractError.ofLookup error = .other cause ↔ error = cause ∧ cause ≠ .notFound name := by
  cases error with
  | notFound key =>
    obtain rfl := concludes.key_eq
    simp +contextual [ContractError.ofLookup, eq_comm]
  | _ =>
    simp only [ContractError.ofLookup, ContractError.other.injEq, iff_self_and]
    rintro rfl
    simp

/-- The ID that is told for a name is that of the server that is found. -/
theorem instanceId_eq_ok_iff {id : String} :
    ((resolver.instances backend).instanceId name).result = .ok id ↔
      ∃ server, (resolver.byName name backend).result = .ok server ∧ server.id = id := by
  rw [instanceId_result]
  cases (resolver.byName name backend).result <;> simp

/-- A lookup by name comes to exactly what the rules for it allow. In particular, an answer whose count is
anything else than a null or a whole number of thirty-two bits, written without a sign, a fraction or an
exponent, is one that cannot be read. The ID of an instance is that of the server that is found, there is no
instance exactly if no server is found, and every other error is passed on as it is. -/
theorem byName_concludes (resolver : Resolver) (name : String) (backend : Backend) :
    let found := (resolver.byName name backend).result
    let identified := ((resolver.instances backend).instanceId name).result
    (∀ outcome, found = outcome ↔ resolver.Concludes name backend outcome) ∧
    (∀ response form part, resolver.Searched name backend response →
      200 ≤ response.status ∧ response.status ≤ 299 → IsText response.text.toList form →
      form.member? "count" 0 = some part → NoCount part →
      ∃ failure, Listing.decode response.text = .error failure ∧ found = .error (.client name
        (.undecodable (String.ofList (resolver.client.listingUrl name).render) failure))) ∧
    (∀ id, identified = .ok id ↔ ∃ server, found = .ok server ∧ server.id = id) ∧
    (identified = .error .instanceNotFound ↔ found = .error (.notFound name)) ∧
    ∀ cause, identified = .error (.other cause) ↔ found = .error cause ∧ cause ≠ .notFound name := by
  intro found identified
  have concludes : resolver.Concludes name backend found := concludes_byName resolver name backend
  refine ⟨fun outcome => ⟨fun same => same ▸ concludes, fun allowed => allowed.byName_eq⟩, ?_,
    fun id => instanceId_eq_ok_iff, ?_⟩
  · intro response form part searched granted isText stated noCount
    obtain ⟨failure, unreadable⟩ := Listing.exists_failure_of_noCount isText stated noCount
    exact ⟨failure, unreadable, (Concludes.unreadable searched granted unreadable).byName_eq⟩
  · have replied : identified = _ := instanceId_result resolver name backend
    rw [replied]
    change resolver.Concludes name backend (resolver.byName name backend).result at concludes
    cases outcome : (resolver.byName name backend).result with
    | ok server => simp [found, outcome]
    | error error =>
      rw [outcome] at concludes
      simp [found, outcome, concludes.ofLookup_eq_notFound_iff, concludes.ofLookup_eq_other_iff]

/-- A backend that grants every request with the same text answers every search that can be sent. -/
theorem searched_granting {body : String}
    (sendable : (resolver.client.request (resolver.client.listingUrl name)).isSendable = true) :
    resolver.Searched name (fun _ => .answered (.granting body)) (.granting body) :=
  ⟨sendable, rfl⟩

/-- What its text is judged to be. -/
theorem byName_result_of_granting {body : String} {listing : Listing}
    (sendable : (resolver.client.request (resolver.client.listingUrl name)).isSendable = true)
    (unmarked : body.toList.head? ≠ some '\ufeff')
    (decoded : Listing.decode body = .ok listing) :
    (resolver.byName name fun _ => .answered (.granting body)).result = onlyServer name listing :=
  byName_result_of_decoded (searched_granting sendable) Response.status_granting
    (by rwa [Response.text_granting unmarked])

/-- An answer with a count that is one more than thirty-two bits hold. -/
def overflowing : String := "\x7b\"count\":4294967297,\"servers\":[\x7b\"id\":\"a\"\x7d]\x7d"

/-- An answer with a server that is counted. -/
def counted : String := "\x7b\"count\":1,\"servers\":[\x7b\"id\":\"a\"\x7d]\x7d"

/-- The count of the first answer does not pass for that of the second: it cannot be read, whereas the second
leads to the server. -/
theorem byName_concludes_overflowing :
    (∃ failure, (atRoot.byName "n" fun _ => .answered (.granting overflowing)).result =
      .error (.client "n" (.undecodable "http://h/v1/p/cloudservers/detail?name=n" failure))) ∧
    (atRoot.byName "n" fun _ => .answered (.granting counted)).result = .ok { id := "a" } ∧
    ((atRoot.instances fun _ => .answered (.granting counted)).instanceId "n").result = .ok "a" := by
  have sendable : (atRoot.client.request (atRoot.client.listingUrl "n")).isSendable = true := by decide
  have key : ∀ text : String, WritesString (text.toList.flatMap writtenChar) (some text) :=
    fun text => (spellsChars_written text).writesString
  have isText : IsText (Response.granting overflowing).text.toList (.object [
      (some "count", .number ⟨false, ⟨'4', "294967297".toList, List.all_eq_true.mp (by decide)⟩, none, none,
        by decide⟩),
      (some "servers", .list [.object [(some "id", .string (some "a"))]])]) := by
    rw [Response.text_granting (by decide)]
    refine ⟨[], 3, _, [], blank_nil, blank_nil, .inr (.object (.part (.first blank_nil)
      (.mk (key "count") blank_nil blank_nil (.inl (.number _))) (.part (.later blank_nil blank_nil)
      (.mk (key "servers") blank_nil blank_nil (.inr (.list (.part (.first blank_nil) (.inr (.object
        (.part (.first blank_nil) (.mk (key "id") blank_nil blank_nil (.string (key "a")))
        (.done blank_nil)))) (.done blank_nil))))) (.done blank_nil)))), ?_⟩
    decide
  have decoded : Listing.decode counted = .ok ⟨some 1, [{ id := "a" }]⟩ := by decide
  have found : (atRoot.byName "n" fun _ => .answered (.granting counted)).result = .ok { id := "a" } :=
    byName_result_of_granting sendable (by decide) decoded
  obtain ⟨-, overflows, -⟩ := byName_concludes atRoot "n" fun _ => .answered (.granting overflowing)
  obtain ⟨-, -, identified, -⟩ := byName_concludes atRoot "n" fun _ => .answered (.granting counted)
  obtain ⟨failure, -, failed⟩ := overflows _ _ _ (searched_granting sendable) Response.status_granting isText
    rfl (.great (by decide))
  exact ⟨⟨failure, failed⟩, found, (identified "a").mpr ⟨_, found, rfl⟩⟩

end NodeLookup.Resolver
