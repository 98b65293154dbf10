import NodeLookup.Proofs.Client.Scope
import NodeLookup.Proofs.Client.Sending
import NodeLookup.Proofs.Lookup.Construction
import NodeLookup.Proofs.Lookup.Questions

/-!
# What a question sends

Whatever a cluster asks and whatever the cloud does, a resolver gives one request to the HTTP client or
none. `requests_of_question` says what that request holds, header by header, when there is none, and what
the answer is then; and it says that the same headers go to every place that the request is redirected to,
however far that is. A control in the project or the token is one of the reasons for no request, so no
setting can add a header line. The theorem after it takes a token to another host.
-/

namespace NodeLookup

/-- The bytes of a request start with its method, which is to read. -/
theorem Request.reads_wire (request : Request) : Text.encode "GET ".toList <+: request.wire := by
  simp only [Request.wire, List.append_assoc, Text.encode_append]
  exact ⟨_, (List.append_assoc ..).symm⟩

/-- A request holds what settings and an endpoint say, and nothing else: it reads, its headers are
among five of which each occurs once, and no header value ends its line. A user is told to the endpoint's
own host alone. -/
structure Settings.Words (settings : Settings) (endpoint : Url) (request : Request) : Prop where
  reads : Text.encode "GET ".toList <+: request.wire
  accept : request.header? "accept" = some "application/json"
  project : request.header? "x-project-id" = some settings.projectId
  token : request.header? "x-auth-token" = nonempty? settings.authToken
  user : request.header? "authorization" ≠ none →
    Client.HasUser endpoint ∧ request.url.sameHost endpoint = true
  onlyThese : ∀ header ∈ request.headers,
    header.1 ∈ ["accept", "x-project-id", "x-auth-token", "authorization", "referer"]
  once : (request.headers.map (·.1)).Nodup
  oneLine : ∀ header ∈ request.headers, '\r' ∉ header.2.toList ∧ '\n' ∉ header.2.toList

/-- What settings and an endpoint say of a request is true of those that it is redirected to. -/
theorem Settings.Words.redirectedTo {settings : Settings} {endpoint : Url} {request : Request}
    (words : settings.Words endpoint request) (target : Url) :
    settings.Words endpoint (request.redirectedTo target) where
  reads := Request.reads_wire _
  accept := (Request.header?_redirectedTo (by decide) (by decide)).trans words.accept
  project := (Request.header?_redirectedTo (by decide) (by decide)).trans words.project
  token := (Request.header?_redirectedTo (by decide) (by decide)).trans words.token
  user told := by
    obtain ⟨toldBefore, sameHost⟩ := Request.user_of_redirectedTo told
    obtain ⟨hasUser, ownHost⟩ := words.user toldBefore
    rw [Url.sameHost_iff] at sameHost ownHost
    rw [Request.url_redirectedTo, Url.sameHost_iff]
    exact ⟨hasUser, sameHost.1.trans ownHost.1, sameHost.2.trans ownHost.2⟩
  onlyThese header present := by
    rcases Request.mem_headers_redirectedTo present with kept | ⟨isSource, -⟩
    · exact words.onlyThese header kept
    · simp [isSource]
  once := Request.nodup_redirectedTo words.once
  oneLine header present := by
    rcases Request.mem_headers_redirectedTo present with kept | ⟨-, fits⟩
    · exact words.oneLine header kept
    · exact Client.noLineEnd_of_isHeaderValue fits

/-- Something in the settings keeps requests from being sent. -/
inductive Settings.Unsendable (settings : Settings) : Prop where
  | project (control : HoldsControl settings.projectId)
  | token {token : String} (given : settings.authToken = some token) (control : HoldsControl token)

namespace Settings.Describes

variable {settings : Settings} {resolver : Resolver} {url : Url} {key : String} {subject : Subject}

/-- A token proves a request exactly if it is given and not empty. -/
theorem ofToken_eq_token_iff {given : Option String} {value : String} :
    Authentication.ofToken given = .token value ↔ nonempty? given = some value := by
  unfold Authentication.ofToken
  split
  · next none => simp [none]
  · next token some => simp [some]

/-- A request can be sent exactly if nothing in the settings is in its way. -/
theorem isSendable_iff (describes : settings.Describes resolver) :
    (resolver.client.request url).isSendable = true ↔ ¬settings.Unsendable := by
  rw [Client.isSendable_request_iff, describes.credentials]
  simp only [ofToken_eq_token_iff, nonempty?, Option.filter_eq_some_iff]
  constructor
  · rintro ⟨project, token⟩ blocked
    cases blocked with
    | project control => exact project control
    | @token value given control =>
      refine token value ⟨given, ?_⟩ control
      rw [bne_iff_ne]
      rintro rfl
      obtain ⟨byte, mem, -⟩ := control
      cases mem
  · intro free
    exact ⟨fun control => free (.project control), fun value given control =>
      free (.token given.1 control)⟩

/-- The URL of a target has the scheme and the authority of the endpoint. -/
theorem target_fields (targets : resolver.Targets subject key url) :
    url.scheme = resolver.client.endpoint.scheme ∧
      url.authority = resolver.client.endpoint.authority := by
  cases targets with
  | server => simp [Client.serverUrl, Client.resourceUrl]
  | listing => simp [Client.listingUrl, Url.appendPair, Client.resourceUrl]

/-- The token of a request is the one that is given, if it is not empty. -/
theorem tokenHeader_ofToken (given : Option String) :
    Client.tokenHeader (.ofToken given) = (nonempty? given).toList.map ("x-auth-token", ·) := by
  unfold Authentication.ofToken
  split
  · next none => simp [none, Client.tokenHeader]
  · next token some => simp [some, Client.tokenHeader]

/-- A user is told in one header, or in none. -/
theorem authorizationHeader_cases (url : Url) : Client.authorizationHeader url = [] ∨
    ∃ value, Client.authorizationHeader url = [("authorization", value)] := by
  unfold Client.authorizationHeader
  split
  · exact .inl rfl
  · exact .inr ⟨_, rfl⟩

/-- The headers of a request are those of the settings, and the one that its URL makes. -/
theorem headers_request (describes : settings.Describes resolver) (url : Url) :
    (resolver.client.request url).headers =
      [("accept", "application/json"), ("x-project-id", settings.projectId)] ++
        (nonempty? settings.authToken).toList.map ("x-auth-token", ·) ++
        Client.authorizationHeader url := by
  rw [Client.request, describes.credentials, tokenHeader_ofToken]

/-- A request for a target tells of a user only if the endpoint has one, and only to the endpoint's host. -/
theorem user_of_targets (describes : settings.Describes resolver)
    (targets : resolver.Targets subject key url)
    (told : (resolver.client.request url).header? "authorization" ≠ none) :
    Client.HasUser resolver.client.endpoint ∧ url.sameHost resolver.client.endpoint = true := by
  obtain ⟨scheme, authority⟩ := target_fields targets
  have port : url.port? = resolver.client.endpoint.port? := by
    rw [Url.port?, Url.port?, scheme, authority]
  refine ⟨?_, Url.sameHost_iff.mpr ⟨congrArg (Option.map (·.host)) authority, port⟩⟩
  rw [Client.HasUser, ← authority]
  rcases authorizationHeader_cases url with none | ⟨value, some⟩
  · rw [Request.header?, describes.headers_request, none] at told
    cases token : nonempty? settings.authToken <;> simp [token] at told
  · exact Client.hasUser_of_authorizationHeader (some ▸ List.mem_singleton_self _)

/-- A request for a target that can be sent holds what the settings say. -/
theorem words (describes : settings.Describes resolver)
    (targets : resolver.Targets subject key url)
    (sendable : (resolver.client.request url).isSendable = true) :
    settings.Words resolver.client.endpoint (resolver.client.request url) ∧
      (resolver.client.request url).header? "referer" = none := by
  have headers := describes.headers_request url
  have user := authorizationHeader_cases url
  constructor
  · constructor
    case reads => exact Request.reads_wire _
    case accept => simp [Request.header?, headers]
    case project => simp [Request.header?, headers]
    case token =>
      rw [Request.header?, headers]
      cases nonempty? settings.authToken with
      | some token => simp
      | none => rcases user with none | ⟨value, some⟩ <;> simp [*]
    case user => exact describes.user_of_targets targets
    case onlyThese =>
      rw [headers]
      cases nonempty? settings.authToken <;> rcases user with none | ⟨value, some⟩ <;> simp [*]
    case once =>
      rw [headers]
      cases nonempty? settings.authToken <;> rcases user with none | ⟨value, some⟩ <;> simp [*]
    case oneLine =>
      intro header mem
      rw [Request.isSendable, List.all_eq_true] at sendable
      exact Client.noLineEnd_of_isHeaderValue (sendable header mem)
  · rw [Request.header?, headers]
    cases nonempty? settings.authToken <;> rcases user with none | ⟨value, some⟩ <;> simp [*]

end Settings.Describes

namespace Resolver

variable {α : Type} {resolver : Resolver} {question : Question α} {subject : Subject} {key : String}
  {url : Url}

/-- A question about a server asks for its target only, unless the settings are in the way. Then the
cloud counts as out of reach. -/
theorem ask_of_describes {settings : Settings} (describes : settings.Describes resolver)
    (about : question.About subject) (targets : resolver.Targets subject key url) :
    (settings.Unsendable → ∀ backend,
      resolver.ask question backend = .silent (.error (.other (.client key .transport)))) ∧
    (¬settings.Unsendable → AsksOnly (resolver.client.request url) (resolver.ask question)) := by
  obtain ⟨judge, unreachable, judged⟩ := ask_of_targets about targets
  have sendable : (resolver.client.request url).isSendable = true ↔ ¬settings.Unsendable :=
    describes.isSendable_iff
  constructor
  · intro unsendable backend
    have notSent := mt sendable.mp (not_not_intro unsendable)
    rw [Client.silent_of_not_sendable notSent judged, unreachable]
  · intro free
    exact Client.asksOnly_of_sendable (sendable.mpr free) judged

/-- Whatever is asked, nothing is asked of a backend, or one request is that holds what the settings
say. -/
theorem asksOnly_or_silent {settings : Settings} (describes : settings.Describes resolver)
    (question : Question α) :
    (∃ result, ∀ backend, resolver.ask question backend = .silent result) ∨
      ∃ url, AsksOnly (resolver.client.request url) (resolver.ask question) ∧
        settings.Words resolver.client.endpoint (resolver.client.request url) ∧
        (resolver.client.request url).header? "referer" = none := by
  obtain ⟨subject, about⟩ | aside := question.about_or_aside
  · obtain ⟨key, url, targets⟩ | ⟨providerId, rfl, rejected⟩ := resolver.exists_targets subject
    · obtain ⟨unsendable, sendable⟩ := ask_of_describes describes about targets
      by_cases blocked : settings.Unsendable
      · exact .inl ⟨_, unsendable blocked⟩
      · exact .inr ⟨url, sendable blocked,
          describes.words targets (describes.isSendable_iff.mpr blocked)⟩
    · exact .inl ⟨_, ask_of_rejected about rejected⟩
  · obtain ⟨result, answered⟩ := ask_of_aside aside
    exact .inl ⟨result, answered resolver⟩

/-- Whatever is asked, at most one request is given to the HTTP client, and it holds what the settings
say. -/
theorem requests_ask {settings : Settings} (describes : settings.Describes resolver)
    (question : Question α) (backend : Backend) :
    (resolver.ask question backend).requests.length ≤ 1 ∧
      ∀ request ∈ (resolver.ask question backend).requests,
        settings.Words resolver.client.endpoint request ∧ request.header? "referer" = none := by
  obtain ⟨result, silent⟩ | ⟨url, asks, words⟩ := asksOnly_or_silent describes question
  · simp [silent]
  · rcases asks.requests_cases backend with one | none
    · simpa [one] using words
    · simp [none]

/-- Whatever is asked, all that arrives on a network is a chain of redirections, and holds what the settings
say. -/
theorem chains_ask {settings : Settings} (describes : settings.Describes resolver)
    (question : Question α) (http : HttpClient) (network : Network) :
    http.Chains network (http.run network (resolver.ask question)).requests ∧
      ∀ request ∈ (http.run network (resolver.ask question)).requests,
        settings.Words resolver.client.endpoint request := by
  obtain ⟨result, silent⟩ | ⟨url, asks, words, -⟩ := asksOnly_or_silent describes question
  · rw [HttpClient.run_of_silent silent]
    exact ⟨HttpClient.chains_nil, by simp⟩
  · obtain ⟨requests, final, follows⟩ :=
      http.exists_follows network http.limit [] (resolver.client.request url)
    rw [HttpClient.requests_run asks follows]
    exact ⟨follows.chains, follows.forall_mem words fun _ target kept => kept.redirectedTo target⟩

/-- A question whose target is in a scheme that the HTTP client does not know finds the cloud out of
reach. -/
theorem run_of_unknown {http : HttpClient} {network : Network} (about : question.About subject)
    (targets : resolver.Targets subject key url)
    (unknown : resolver.client.endpoint.scheme ∉ http.schemes) :
    http.run network (resolver.ask question) =
      .silent (.error (.other (.client key .transport))) := by
  obtain ⟨judge, unreachable, judged⟩ := ask_of_targets about targets
  have scheme := (Settings.Describes.target_fields targets).1
  have lost : http.backend network (resolver.client.request url) = .unreachable :=
    HttpClient.backend_of_unknown (scheme ▸ unknown)
  have silent : resolver.ask question (http.backend network) =
      .silent (.error (.other (.client key .transport))) := by
    rw [judged, Client.deliver]
    split
    · rw [lost, ← unreachable]
      rfl
    · rw [← unreachable]
      rfl
  rw [HttpClient.run, silent]
  rfl

/-- A resolver that settings make gives one request at most to the HTTP client, whatever it is asked and
whatever the backend does, and that holds what the settings say. On a network further requests arrive only
where the answer to the one before redirects it, no more of them than the HTTP client allows, and they hold
the same. A question about no server, and one about a provider ID that is refused, has its answer without
a request. So has every other question if the project or the token is in the way, or the HTTP client does
not know the scheme, and then the cloud counts as out of reach. Otherwise all that arrives follows the
request for the question's target. -/
theorem requests_of_question {settings : Settings} (made : ofSettings settings = .ok resolver)
    (question : Question α) (http : HttpClient) (network : Network) :
    let exchange := http.run network (resolver.ask question)
    Url.parse settings.endpoint.toList = .ok resolver.client.endpoint ∧
    (∀ backend, (resolver.ask question backend).requests.length ≤ 1 ∧
      ∀ request ∈ (resolver.ask question backend).requests,
        settings.Words resolver.client.endpoint request ∧ request.header? "referer" = none) ∧
    (http.Chains network exchange.requests ∧
      ∀ request ∈ exchange.requests, settings.Words resolver.client.endpoint request) ∧
    (question.Aside → ∃ result, exchange = .silent result ∧
      ∀ backend, resolver.ask question backend = .silent result) ∧
    (∀ providerId, question.About (.providerId providerId) →
      resolver.serverId providerId ∈ ["", ".", ".."] →
        exchange = .silent (.error (.other (.invalidProviderId providerId)))) ∧
    ∀ subject key url, question.About subject → resolver.Targets subject key url →
      (settings.Unsendable ∨ resolver.client.endpoint.scheme ∉ http.schemes →
        exchange = .silent (.error (.other (.client key .transport)))) ∧
      (¬settings.Unsendable → AsksOnly (resolver.client.request url) (resolver.ask question) ∧
        ∃ final, http.Follows network http.limit [] (resolver.client.request url)
          exchange.requests final) := by
  intro exchange
  have describes := ofSettings_eq_ok_iff.mp made
  have answered : question.Aside → ∃ result, exchange = .silent result ∧
      ∀ backend, resolver.ask question backend = .silent result := by
    intro aside
    obtain ⟨result, silent⟩ := ask_of_aside aside
    exact ⟨result, HttpClient.run_of_silent (silent resolver), silent resolver⟩
  refine ⟨describes.parsed, requests_ask describes question, chains_ask describes question http network,
    answered, fun _ about rejected => HttpClient.run_of_silent (ask_of_rejected about rejected),
    fun subject key url about targets => ⟨?_, fun free => ?_⟩⟩
  · rintro (unsendable | unknown)
    · exact HttpClient.run_of_silent ((ask_of_describes describes about targets).1 unsendable)
    · exact run_of_unknown about targets unknown
  · have asks := (ask_of_describes describes about targets).2 free
    obtain ⟨requests, final, follows⟩ :=
      http.exists_follows network http.limit [] (resolver.client.request url)
    exact ⟨asks, final, by rwa [HttpClient.requests_run asks follows]⟩

/-- A name is searched for with a token and a user. A line end in the project keeps the search from being
sent, and a provider ID that stands for the collection of servers is refused. -/
theorem requests_of_question_lineEnd :
    ∃ plain broken,
      ofSettings { Settings.atRoot "p" (some "t") with endpoint := "http://u@h" } = .ok plain ∧
      ofSettings (Settings.atRoot "a\nb") = .ok broken ∧
      AsksOnly (plain.client.request (plain.client.listingUrl "n")) (plain.ask (.instanceId "n")) ∧
      ((plain.ask (.instanceId "n") fun _ => .unanswered).requests.map fun request =>
        (request.header? "x-auth-token", request.header? "authorization")) =
          [(some "t", some "Basic dTo=")] ∧
      ∀ network,
        HttpClient.plain.run network (broken.ask (.instanceId "n")) =
          .silent (.error (.other (.client "n" .transport))) ∧
        HttpClient.plain.run network (plain.ask (.instanceExistsByProviderId "huaweicloud://..")) =
          .silent (.error (.other (.invalidProviderId "huaweicloud://.."))) ∧
        ∃ result, HttpClient.plain.run network (plain.ask (.instanceType "n")) = .silent result := by
  have plain : ofSettings { Settings.atRoot "p" (some "t") with endpoint := "http://u@h" } =
      .ok (atRoot "p" (.token "t") ['u']) := by decide
  have broken : ofSettings (Settings.atRoot "a\nb") = .ok (atRoot "a\nb") := by decide
  have sendable : ((atRoot "p" (.token "t") ['u']).client.request
      ((atRoot "p" (.token "t") ['u']).client.listingUrl "n")).isSendable = true := by decide
  have free := (ofSettings_eq_ok_iff.mp plain).isSendable_iff.mp sendable
  have control : HoldsControl (Settings.atRoot "a\nb").projectId := ⟨0x0A, by decide, by decide⟩
  obtain ⟨-, -, -, -, -, searched⟩ :=
    requests_of_question plain (.instanceId "n") HttpClient.plain fun _ _ => .unanswered
  refine ⟨_, _, plain, broken,
    ((searched _ _ _ (.instanceId "n") (.listing "n")).2 free).1, by decide, fun network => ?_⟩
  obtain ⟨-, -, -, -, refused, -⟩ := requests_of_question plain
    (.instanceExistsByProviderId "huaweicloud://..") HttpClient.plain network
  obtain ⟨-, -, -, aside, -⟩ :=
    requests_of_question plain (.instanceType "n") HttpClient.plain network
  obtain ⟨-, -, -, -, -, blocked⟩ :=
    requests_of_question broken (.instanceId "n") HttpClient.plain network
  have unsent := (blocked _ _ _ (.instanceId "n") (.listing "n")).1 (.inl (.project control))
  obtain ⟨result, answered, -⟩ := aside (.instanceType "n")
  exact ⟨unsent, refused _ (.instanceExists _) (by decide), result, answered⟩

/-- A request that is redirected takes its token to another host. A provider ID that is refused is refused
in a scheme that is not spoken as well. -/
theorem redirection_takes_token :
    ((ofSettings (Settings.atRoot "p" (some "t"))).map fun resolver =>
        (HttpClient.plain.run (.redirecting { status := 404 })
          (resolver.ask (.instanceId "n"))).requests.map fun request =>
            (String.ofList request.url.render, request.header? "x-auth-token")) =
      .ok [("http://h/v1/p/cloudservers/detail?name=n", some "t"), ("http://m/", some "t")] ∧
    ((ofSettings { Settings.atRoot with endpoint := "https://h" }).map fun resolver =>
        (resolver.client.endpoint.scheme,
          (HttpClient.plain.run (.redirecting { status := 404 })
            (resolver.ask (.instanceExistsByProviderId ""))).result)) =
      .ok ("https".toList, .error (.other (.invalidProviderId ""))) := by
  constructor <;> decide

end Resolver

end NodeLookup
