import Mathlib.Tactic.Common
import NodeLookup.Exchange.Http

/-!
# Requests that are redirected

What one request becomes on the network. `HttpClient.Follows` is authoritative: it says which requests
arrive one after the other, and in which answer they end. Every request fares in one way that it allows,
and the HTTP client goes that way, by `exists_follows` and `Follows.follow_eq`. Whatever redirections keep
is true of every request that arrives, by `Follows.forall_mem`; they keep every header but those about the
user and the source. No request arrives that nothing redirects to, by `Follows.chains`.
-/

namespace NodeLookup

/-- An exchange puts one request to the backend, and nothing but what becomes of it plays a part. -/
structure AsksOnly {α : Type} (request : Request) (exchange : Backend → Exchanged α) : Prop where
  received : ∀ backend,
    (exchange backend).requests = if (backend request).isReceived then [request] else []
  decided : ∀ backend other, backend request = other request → exchange backend = exchange other

/-- A single request is received at most once. -/
theorem AsksOnly.requests_cases {α : Type} {request : Request} {exchange : Backend → Exchanged α}
    (asks : AsksOnly request exchange) (backend : Backend) :
    (exchange backend).requests = [request] ∨ (exchange backend).requests = [] := by
  rw [asks.received]
  split
  · exact .inl rfl
  · exact .inr rfl

/-! ## What a redirection keeps of a request -/

/-- The same host is the same name or address, and the same port. -/
theorem Url.sameHost_iff {url other : Url} :
    url.sameHost other = true ↔
      url.authority.map (·.host) = other.authority.map (·.host) ∧ url.port? = other.port? := by
  simp [sameHost]

namespace Request

variable {request : Request} {source target : Url} {name value : String} {header : String × String}

/-- A header is the same among those of which all of its name are left. -/
theorem find?_filter_headers {headers : List (String × String)} {passes : String × String → Bool}
    (left : ∀ header : String × String, header.1 = name → passes header = true) :
    (headers.filter passes).find? (·.1 == name) = headers.find? (·.1 == name) := by
  have same : (fun header : String × String => decide (passes header = true ∧
      (header.1 == name) = true)) = fun header => header.1 == name := by
    funext header
    by_cases isName : header.1 = name
    · simp [isName, left header isName]
    · simp [isName]
  rw [List.find?_filter, same]

/-- A header that is set leaves the others alone. -/
theorem header?_withHeader {other : String} (different : other ≠ name) :
    (request.withHeader name value).header? other = request.header? other := by
  have left : ∀ header : String × String, header.1 = other → (header.1 != name) = true := by
    rintro ⟨_, _⟩ rfl
    simpa using different
  simp [header?, withHeader, find?_filter_headers left, different.symm]

/-- The source that a redirected request tells can be the value of a header. -/
theorem isHeaderValue_referer? (told : referer? source target = some value) :
    isHeaderValue value = true := by
  unfold referer? at told
  dsimp only at told
  split at told
  · cases told
  split at told
  · next fits =>
    cases told
    exact fits
  · cases told

/-- A redirection leads to its target. -/
@[simp] theorem url_redirectedTo (request : Request) (target : Url) :
    (request.redirectedTo target).url = target := by
  unfold redirectedTo
  split <;> rfl

/-- A redirection keeps every header but those about the user and the source. -/
theorem header?_redirectedTo (notUser : name ≠ "authorization") (notSource : name ≠ "referer") :
    (request.redirectedTo target).header? name = request.header? name := by
  have left : ∀ header : String × String, header.1 = name →
      (header.1 != "authorization" || target.sameHost request.url) = true := by
    rintro ⟨_, _⟩ rfl
    simp [notUser]
  unfold redirectedTo
  split
  · simp only [header?, find?_filter_headers left]
  · rw [header?_withHeader notSource]
    simp only [header?, find?_filter_headers left]

/-- The user is told again only to the same host. -/
theorem user_of_redirectedTo (told : (request.redirectedTo target).header? "authorization" ≠ none) :
    request.header? "authorization" ≠ none ∧ target.sameHost request.url = true := by
  have kept : (Request.mk target (request.headers.filter fun header =>
      header.1 != "authorization" || target.sameHost request.url)).header? "authorization" ≠ none := by
    unfold redirectedTo at told
    split at told
    · exact told
    · rwa [header?_withHeader (by decide)] at told
  cases same : target.sameHost request.url with
  | true => simpa [same, header?] using kept
  | false =>
    exfalso
    simp [same, header?] at kept

/-- A redirected request has the headers that it had, and its source. -/
theorem mem_headers_redirectedTo (present : header ∈ (request.redirectedTo target).headers) :
    header ∈ request.headers ∨ header.1 = "referer" ∧ isHeaderValue header.2 = true := by
  unfold redirectedTo at present
  split at present
  · exact .inl (List.mem_filter.mp present).1
  · next value told =>
    rcases List.mem_append.mp present with kept | source
    · exact .inl (List.mem_filter.mp (List.mem_filter.mp kept).1).1
    · cases List.mem_singleton.mp source
      exact .inr ⟨rfl, isHeaderValue_referer? told⟩

/-- A redirection repeats no header. -/
theorem nodup_redirectedTo (once : (request.headers.map (·.1)).Nodup) :
    ((request.redirectedTo target).headers.map (·.1)).Nodup := by
  have filtered : ∀ (headers : List (String × String)) (passes : String × String → Bool),
      (headers.map (·.1)).Nodup → ((headers.filter passes).map (·.1)).Nodup :=
    fun headers passes => List.Nodup.sublist ((List.filter_sublist).map _)
  have kept := filtered request.headers
    (fun header => header.1 != "authorization" || target.sameHost request.url) once
  unfold redirectedTo
  split
  · exact kept
  · simp only [withHeader, List.map_append, List.map_cons, List.map_nil]
    refine List.nodup_append.mpr ⟨filtered _ _ kept, by simp, ?_⟩
    simp only [List.mem_map, List.mem_filter, List.mem_singleton]
    rintro _ ⟨header, ⟨-, notSource⟩, rfl⟩ _ rfl
    simpa using notSource

end Request

namespace HttpClient

variable {http : HttpClient} {network : Network} {limit : Nat} {sent requests : List Request}
  {request next : Request} {answer : Answer} {final : Option Answer}

/-- An answer redirects a request to another one: its status says so, and its location names a place that
can be found. -/
structure Redirects (http : HttpClient) (request : Request) (answer : Answer) (next : Request) :
    Prop where
  status : answer.status ∈ redirections
  located : ∃ location text target, answer.header? "location" = some location ∧
    Text.decode? location = some text ∧ http.locate request.url text = some target ∧
    next = request.redirectedTo target

/-- The HTTP client finds the redirections that there are. -/
theorem redirected?_eq_some_iff :
    http.redirected? request answer = some next ↔ http.Redirects request answer next := by
  rw [redirected?]
  constructor
  · intro found
    split at found
    · next status =>
      simp only [Option.bind_eq_bind, Option.bind_eq_some_iff, Option.some.injEq] at found
      obtain ⟨location, named, text, read, target, located, rfl⟩ := found
      exact ⟨List.contains_iff_mem.mp status, location, text, target, named, read, located, rfl⟩
    · cases found
  · rintro ⟨status, location, text, target, named, read, located, rfl⟩
    rw [if_pos (List.contains_iff_mem.mpr status)]
    simp [named, read, located]

/-- Where an answer redirects nowhere, none is found. -/
theorem redirected?_eq_none_iff :
    http.redirected? request answer = none ↔ ∀ next, ¬http.Redirects request answer next := by
  simp only [← redirected?_eq_some_iff, Option.eq_none_iff_forall_ne_some, ne_eq]

/-- How a request fares that is sent after others and redirected at most so many times: the requests that
arrive one after the other, and the answer in which they end, if there is one. -/
inductive Follows (http : HttpClient) (network : Network) :
    (limit : Nat) → (sent : List Request) → Request → List Request → Option Answer → Prop where
  | unknown {limit : Nat} {sent : List Request} {request : Request}
      (unknown : request.url.scheme ∉ http.schemes) : Follows http network limit sent request [] none
  | unreachable {limit : Nat} {sent : List Request} {request : Request}
      (known : request.url.scheme ∈ http.schemes) (lost : network sent request = .unreachable) :
      Follows http network limit sent request [] none
  | unanswered {limit : Nat} {sent : List Request} {request : Request}
      (known : request.url.scheme ∈ http.schemes) (lost : network sent request = .unanswered) :
      Follows http network limit sent request [request] none
  | answered {limit : Nat} {sent : List Request} {request : Request} {answer : Answer}
      (known : request.url.scheme ∈ http.schemes) (arrived : network sent request = .answered answer)
      (last : ∀ next, ¬http.Redirects request answer next) :
      Follows http network limit sent request [request] (some answer)
  | exhausted {sent : List Request} {request next : Request} {answer : Answer}
      (known : request.url.scheme ∈ http.schemes) (arrived : network sent request = .answered answer)
      (redirects : http.Redirects request answer next) :
      Follows http network 0 sent request [request] none
  | redirected {limit : Nat} {sent requests : List Request} {request next : Request} {answer : Answer}
      {final : Option Answer} (known : request.url.scheme ∈ http.schemes)
      (arrived : network sent request = .answered answer)
      (redirects : http.Redirects request answer next)
      (later : Follows http network limit (sent ++ [request]) next requests final) :
      Follows http network (limit + 1) sent request (request :: requests) final

/-- A request fares the same whatever is allowed, or it is redirected. -/
theorem follows_or_redirects (http : HttpClient) (network : Network) (sent : List Request)
    (request : Request) :
    (∃ requests final, ∀ limit, http.Follows network limit sent request requests final) ∨
      request.url.scheme ∈ http.schemes ∧
        ∃ answer next, network sent request = .answered answer ∧ http.Redirects request answer next := by
  by_cases known : request.url.scheme ∈ http.schemes
  · cases arrival : network sent request with
    | unreachable => exact .inl ⟨_, _, fun _ => .unreachable known arrival⟩
    | unanswered => exact .inl ⟨_, _, fun _ => .unanswered known arrival⟩
    | answered answer =>
      by_cases redirects : ∃ next, http.Redirects request answer next
      · obtain ⟨next, redirects⟩ := redirects
        exact .inr ⟨known, answer, next, rfl, redirects⟩
      · exact .inl ⟨_, _, fun _ => .answered known arrival (not_exists.mp redirects)⟩
  · exact .inl ⟨_, _, fun _ => .unknown known⟩

/-- Every request fares somehow. -/
theorem exists_follows (http : HttpClient) (network : Network) (limit : Nat) (sent : List Request)
    (request : Request) :
    ∃ requests final, http.Follows network limit sent request requests final := by
  induction limit generalizing sent request with
  | zero =>
    obtain ⟨requests, final, ends⟩ | ⟨known, answer, next, arrived, redirects⟩ :=
      http.follows_or_redirects network sent request
    · exact ⟨requests, final, ends 0⟩
    · exact ⟨_, _, .exhausted known arrived redirects⟩
  | succ limit inductionHypothesis =>
    obtain ⟨requests, final, ends⟩ | ⟨known, answer, next, arrived, redirects⟩ :=
      http.follows_or_redirects network sent request
    · exact ⟨requests, final, ends (limit + 1)⟩
    · obtain ⟨requests, final, later⟩ := inductionHypothesis (sent ++ [request]) next
      exact ⟨_, _, .redirected known arrived redirects later⟩

namespace Follows

/-- The HTTP client sends what follows a request. -/
theorem follow_eq (follows : http.Follows network limit sent request requests final) :
    http.follow network limit sent request = ⟨requests, final⟩ := by
  rw [follow]
  induction follows with
  | @unknown limit sent request unknown =>
    cases limit <;> simp [followBy, attempt, unknown, Exchanged.silent]
  | @unreachable limit sent request known lost =>
    cases limit <;> simp [followBy, attempt, settle, known, lost, Exchanged.silent]
  | @unanswered limit sent request known lost =>
    cases limit <;> simp [followBy, attempt, settle, known, lost]
  | @answered limit sent request answer known arrived last =>
    have nowhere := redirected?_eq_none_iff.mpr last
    cases limit <;> simp [followBy, attempt, settle, known, arrived, nowhere]
  | exhausted known arrived redirects =>
    have found := redirected?_eq_some_iff.mpr redirects
    simp [followBy, attempt, settle, known, arrived, found]
  | redirected known arrived redirects later inductionHypothesis =>
    have found := redirected?_eq_some_iff.mpr redirects
    simp [followBy, attempt, settle, known, arrived, found, inductionHypothesis, Exchanged.after]

/-- An answer is one to a request that arrived. -/
theorem requests_ne_nil (follows : http.Follows network limit sent request requests (some answer)) :
    requests ≠ [] := by
  cases follows <;> exact List.cons_ne_nil _ _

/-- The first request that arrives is the one that is sent. -/
theorem head?_eq (follows : http.Follows network limit sent request requests final) {first : Request}
    (isFirst : requests.head? = some first) : first = request := by
  cases follows with
  | unknown => cases isFirst
  | unreachable => cases isFirst
  | unanswered | answered | exhausted | redirected => exact (Option.some.inj isFirst).symm

/-- What is true of a request and kept by redirections is true of all that arrives. -/
theorem forall_mem {holds : Request → Prop}
    (follows : http.Follows network limit sent request requests final) (start : holds request)
    (kept : ∀ request target, holds request → holds (request.redirectedTo target)) :
    ∀ arrived ∈ requests, holds arrived := by
  induction follows with
  | unknown => simp
  | unreachable => simp
  | unanswered | answered | exhausted => simpa using start
  | redirected known arrived redirects later inductionHypothesis =>
    obtain ⟨_, _, target, -, -, -, rfl⟩ := redirects.located
    exact List.forall_mem_cons.mpr ⟨start, inductionHypothesis (kept _ target start)⟩

/-- The first request and those that it is redirected to are all that arrives. -/
theorem length_le (follows : http.Follows network limit sent request requests final) :
    requests.length ≤ limit + 1 := by
  induction follows with
  | unknown => simp
  | unreachable => simp
  | unanswered | answered | exhausted => simp
  | redirected known arrived redirects later inductionHypothesis => simpa using inductionHypothesis

/-- Each request that arrives after another one is where the answer to that one redirects it. -/
theorem linked (follows : http.Follows network limit sent request requests final)
    {before after : List Request} {earlier later : Request}
    (split : requests = before ++ earlier :: later :: after) :
    ∃ answer, network (sent ++ before) earlier = .answered answer ∧
      http.Redirects earlier answer later := by
  induction follows generalizing before with
  | unknown | unreachable => simp at split
  | unanswered | answered | exhausted =>
    have length := congrArg List.length split
    simp at length
    omega
  | @redirected limit sent requests request next answer final known arrived redirects follows
      inductionHypothesis =>
    cases before with
    | nil =>
      obtain ⟨rfl, rest⟩ := List.cons.inj split
      have first : requests.head? = some later := by rw [rest]; rfl
      rw [List.append_nil]
      exact ⟨answer, arrived, follows.head?_eq first ▸ redirects⟩
    | cons first before =>
      obtain ⟨rfl, rest⟩ := List.cons.inj split
      simpa using inductionHypothesis rest

end Follows

/-- Requests that arrive one after the other: no more than are allowed, and each but the first where the
answer to the one before redirects it. -/
structure Chains (http : HttpClient) (network : Network) (requests : List Request) : Prop where
  bounded : requests.length ≤ http.limit + 1
  linked : ∀ before earlier later after, requests = before ++ earlier :: later :: after →
    ∃ answer, network before earlier = .answered answer ∧ http.Redirects earlier answer later

/-- No request is a chain. -/
theorem chains_nil : http.Chains network [] where
  bounded := Nat.zero_le _
  linked before earlier later after split := by simp at split

/-- What arrives of one request is a chain. -/
theorem Follows.chains (follows : http.Follows network http.limit [] request requests final) :
    http.Chains network requests where
  bounded := follows.length_le
  linked _ _ _ _ split := follows.linked split

/-- Where no answer redirects, at most one request arrives. -/
theorem Chains.length_le_one (chains : http.Chains network requests)
    (direct : ∀ sent request answer next, network sent request = .answered answer →
      ¬http.Redirects request answer next) : requests.length ≤ 1 := by
  match requests, chains with
  | [], _ => simp
  | [_], _ => simp
  | earlier :: later :: after, chains =>
    obtain ⟨answer, arrived, redirects⟩ := chains.linked [] earlier later after rfl
    exact absurd redirects (direct _ _ _ _ arrived)

/-! ## Exchanges over the network -/

section Exchanges

variable {α : Type} {exchange : Backend → Exchanged α}

/-- What is delivered of a request are the requests that arrive and the answer in which they end. -/
theorem deliver_of_follows (follows : http.Follows network http.limit [] request requests final) :
    http.deliver network request = ⟨requests, http.deliveryOf requests final⟩ := by
  rw [deliver, follows.follow_eq]
  rfl

/-- A request is received exactly if it arrives. -/
theorem isReceived_deliveryOf (follows : http.Follows network http.limit [] request requests final) :
    (http.deliveryOf requests final).isReceived = !requests.isEmpty := by
  rw [deliveryOf]
  split
  · next response handed =>
    obtain ⟨answer, rfl, -⟩ := Option.bind_eq_some_iff.mp handed
    obtain ⟨first, rest, rfl⟩ := List.exists_cons_of_ne_nil follows.requests_ne_nil
    rfl
  · cases requests <;> rfl

/-- A request in a scheme that the HTTP client does not know goes nowhere. -/
theorem backend_of_unknown (unknown : request.url.scheme ∉ http.schemes) :
    http.backend network request = .unreachable := by
  rw [backend, deliver_of_follows (.unknown unknown)]
  rfl

/-- What is handed over is the answer in which the request ends. -/
theorem backend_eq_answered_iff {response : Response} :
    http.backend network request = .answered response ↔
      ∃ requests answer, http.Follows network http.limit [] request requests (some answer) ∧
        http.handOver? answer = some response := by
  constructor
  · intro delivered
    obtain ⟨requests, final, follows⟩ := http.exists_follows network http.limit [] request
    rw [backend, deliver_of_follows follows, deliveryOf] at delivered
    split at delivered
    · next handed =>
      cases delivered
      obtain ⟨answer, rfl, handed⟩ := Option.bind_eq_some_iff.mp handed
      exact ⟨requests, answer, follows, handed⟩
    · split at delivered <;> cases delivered
  · rintro ⟨requests, answer, follows, handed⟩
    rw [backend, deliver_of_follows follows, deliveryOf, Option.bind_some, handed]

/-- An exchange about one request sends what follows that request. -/
theorem requests_run (asks : AsksOnly request exchange)
    (follows : http.Follows network http.limit [] request requests final) :
    (http.run network exchange).requests = requests := by
  have delivered := deliver_of_follows follows
  rw [run, asks.received, backend, delivered, isReceived_deliveryOf follows]
  cases requests <;> simp [delivered]

/-- An exchange that asks nothing sends nothing. -/
theorem run_of_silent {result : α} (asked : ∀ backend, exchange backend = .silent result) :
    http.run network exchange = .silent result := by
  rw [run, asked]
  rfl

end Exchanges

end HttpClient

/-- A network that redirects what it is sent first to the root of another host, and then answers. -/
def Network.redirecting (last : Answer) : Network := fun sent _ =>
  if sent.isEmpty then
    .answered { status := 302, headers := [("location", Text.encode "http://m".toList)] }
  else .answered last

end NodeLookup
