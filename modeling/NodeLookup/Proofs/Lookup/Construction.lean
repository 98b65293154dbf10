import NodeLookup.Command.Execution

/-!
# Which resolver settings describe

A resolver is made in three steps, credentials, endpoint and client, of which each can fail.
`Settings.Describes` says what has to hold for all of them to succeed, and what they make then; by
`ofSettings_eq_ok_iff` a resolver is made in no other way.
-/

namespace NodeLookup

/-- How a request with a token proves itself. An empty token proves nothing. -/
def Authentication.ofToken (token : Option String) : Authentication :=
  match nonempty? token with
  | none => .anonymous
  | some value => .token value

/-- A token that is not empty proves a request. -/
theorem Authentication.ofToken_of_ne_empty {token : String} (given : token ≠ "") :
    ofToken (some token) = .token token := by
  have kept : nonempty? (some token) = some token := by simpa [nonempty?] using given
  rw [ofToken, kept]

/-- Credentials are made for a project that is not empty, with whatever token. -/
theorem Credentials.build_of_ne_empty {projectId : String} (named : projectId ≠ "")
    (token : Option String) : build (some projectId) token = .ok ⟨projectId, .ofToken token⟩ := by
  have kept : (some projectId).filter (· != "") = some projectId := by simpa using named
  rw [build, kept, Authentication.ofToken, nonempty?]
  cases token.filter (· != "") <;> rfl

/-- No credentials are made for an empty project. -/
theorem Credentials.build_empty (token : Option String) :
    build (some "") token = .error missingProject := by
  have dropped : (some "").filter (· != "") = none := by simp
  rw [build, dropped]

namespace Client

variable {config : ClientConfig} {endpoint : Url}

/-- A client is made for an endpoint that can be extended. -/
theorem connect_of_base (parsed : Url.parse config.endpoint.toList = .ok endpoint)
    (base : endpoint.isBase = true) (credentials : Credentials) :
    connect config credentials = .ok ⟨endpoint, base, config.timeout, credentials⟩ := by
  simp [connect, parsed, base]

/-- An endpoint that cannot be extended is named in the error. -/
theorem connect_of_not_base (parsed : Url.parse config.endpoint.toList = .ok endpoint)
    (notBase : endpoint.isBase = false) (credentials : Credentials) :
    connect config credentials = .error (.invalidConfig (unusableEndpoint config.endpoint)) := by
  simp [connect, parsed, notBase]

/-- An endpoint that is no URL is refused for its flaw. -/
theorem connect_of_flaw {flaw : Url.Flaw}
    (flawed : Url.parse config.endpoint.toList = .error flaw) (credentials : Credentials) :
    connect config credentials = .error (.invalidUrl flaw) := by
  simp [connect, flawed]

end Client

/-- Settings describe a resolver: they name a project, and their endpoint is a URL that can be
extended. Everything that the resolver holds comes from them. -/
structure Settings.Describes (settings : Settings) (resolver : Resolver) : Prop where
  named : settings.projectId ≠ ""
  parsed : Url.parse settings.endpoint.toList = .ok resolver.client.endpoint
  timeout : resolver.client.timeout = settings.requestTimeout
  credentials : resolver.client.credentials =
    ⟨settings.projectId, .ofToken settings.authToken⟩
  providerName : resolver.providerName = settings.providerName

/-- Settings of a project at the root of a host. -/
def Settings.atRoot (projectId : String := "p") (authToken : Option String := none) : Settings :=
  ⟨"huaweicloud", "http://h", none, projectId, authToken, 30⟩

namespace Resolver

variable {settings : Settings}

/-- Settings without a project make no resolver. -/
theorem ofSettings_of_no_project (unnamed : settings.projectId = "") :
    ofSettings settings = .error (.invalidConfig Credentials.missingProject) := by
  rw [ofSettings, unnamed, Credentials.build_empty]
  rfl

/-- Once a project is named, only the client can fail to be made. -/
theorem ofSettings_of_project (named : settings.projectId ≠ "") :
    ofSettings settings =
      (Client.connect { endpoint := settings.endpoint, timeout := settings.requestTimeout }
        ⟨settings.projectId, .ofToken settings.authToken⟩).map fun client =>
          { client, providerName := settings.providerName } := by
  rw [ofSettings, Credentials.build_of_ne_empty named]
  rfl

/-- An endpoint that is no URL makes no resolver. -/
theorem ofSettings_of_flaw (named : settings.projectId ≠ "") {flaw : Url.Flaw}
    (flawed : Url.parse settings.endpoint.toList = .error flaw) :
    ofSettings settings = .error (.invalidUrl flaw) := by
  let config : ClientConfig := { endpoint := settings.endpoint, timeout := settings.requestTimeout }
  have refused : Url.parse config.endpoint.toList = .error flaw := flawed
  rw [ofSettings_of_project named, Client.connect_of_flaw refused]
  rfl

/-- Neither does one that cannot be extended. -/
theorem ofSettings_of_not_base (named : settings.projectId ≠ "") {endpoint : Url}
    (parsed : Url.parse settings.endpoint.toList = .ok endpoint) (notBase : endpoint.isBase = false) :
    ofSettings settings =
      .error (.invalidConfig (Client.unusableEndpoint settings.endpoint)) := by
  let config : ClientConfig := { endpoint := settings.endpoint, timeout := settings.requestTimeout }
  have accepted : Url.parse config.endpoint.toList = .ok endpoint := parsed
  rw [ofSettings_of_project named, Client.connect_of_not_base accepted notBase]
  rfl

/-- With a project and an endpoint that can be extended, a resolver is made. -/
theorem ofSettings_of_base (named : settings.projectId ≠ "") {endpoint : Url}
    (parsed : Url.parse settings.endpoint.toList = .ok endpoint) (base : endpoint.isBase = true) :
    ofSettings settings = .ok {
      client := ⟨endpoint, base, settings.requestTimeout, settings.projectId, .ofToken settings.authToken⟩
      providerName := settings.providerName } := by
  let config : ClientConfig := { endpoint := settings.endpoint, timeout := settings.requestTimeout }
  have accepted : Url.parse config.endpoint.toList = .ok endpoint := parsed
  rw [ofSettings_of_project named, Client.connect_of_base accepted base]
  rfl

/-- Settings make the resolver that they describe, and no other. -/
theorem ofSettings_eq_ok_iff {resolver : Resolver} :
    ofSettings settings = .ok resolver ↔ settings.Describes resolver := by
  by_cases named : settings.projectId = ""
  · rw [ofSettings_of_no_project named]
    exact iff_of_false (by simp) fun describes => describes.named named
  constructor
  · intro made
    cases parsed : Url.parse settings.endpoint.toList with
    | error flaw =>
      rw [ofSettings_of_flaw named parsed] at made
      cases made
    | ok endpoint =>
      cases base : endpoint.isBase with
      | false =>
        rw [ofSettings_of_not_base named parsed base] at made
        cases made
      | true =>
        rw [ofSettings_of_base named parsed base] at made
        cases made
        exact ⟨named, parsed, rfl, rfl, rfl⟩
  · intro describes
    rw [ofSettings_of_base named describes.parsed resolver.client.base]
    obtain ⟨⟨endpoint, base, timeout, credentials⟩, providerName⟩ := resolver
    simp [← describes.timeout, ← describes.credentials, ← describes.providerName]

end Resolver

end NodeLookup
