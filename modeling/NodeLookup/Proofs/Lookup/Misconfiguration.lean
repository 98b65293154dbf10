import NodeLookup.Proofs.Client.Classification
import NodeLookup.Proofs.Client.Scope
import NodeLookup.Proofs.Lookup.Agreement
import NodeLookup.Proofs.Lookup.Construction
import NodeLookup.Proofs.Lookup.Questions
import NodeLookup.Proofs.Settings.Merging

/-!
# When a wrong configuration is noticed

The endpoint is checked when a client is made, and each time when its path is extended. The second check
refuses what the first one does, by `Client.extendEndpoint_eq_error_iff`, so it never fails for a client.
`Resolver.misconfiguration_noticed` puts together that settings are refused for their endpoint alone, when
a resolver is made of them, and that no lookup blames them later.
-/

namespace NodeLookup

/-! ## Errors that blame the configuration -/

/-- A client error blames the configuration and not the cloud. -/
inductive ClientError.BlamesSettings : ClientError → Prop where
  | url (flaw : Url.Flaw) : BlamesSettings (.invalidUrl flaw)
  | config (reason : String) : BlamesSettings (.invalidConfig reason)

/-- A lookup error has a source that blames the configuration. -/
def LookupError.BlamesSettings (error : LookupError) : Prop :=
  ∃ key source, error = .client key source ∧ source.BlamesSettings

/-- A contract error has a source that blames the configuration. -/
def ContractError.BlamesSettings (error : ContractError) : Prop :=
  ∃ cause, error = .other cause ∧ cause.BlamesSettings

/-- What a failed lookup means to the cluster has no other source than the failure. -/
theorem LookupError.BlamesSettings.of_ofLookup {cause : LookupError}
    (blames : (ContractError.ofLookup cause).BlamesSettings) : cause.BlamesSettings := by
  obtain ⟨same, isOther, blames⟩ := blames
  cases cause with
  | notFound key => cases isOther
  | _ =>
    cases isOther
    exact blames

namespace Client

variable {α : Type} {client : Client}

/-! ## Extending the endpoint -/

/-- An endpoint leads to no URL exactly if no client is made for it. -/
theorem extendEndpoint_eq_error_iff {endpoint : Url} {added : List (List Char)} {error : ClientError} :
    extendEndpoint endpoint added = .error error ↔
      endpoint.isBase = false ∧ error = .invalidConfig unextendableEndpoint := by
  cases path : endpoint.path with
  | plain text => simp [extendEndpoint, Url.isBase, path, eq_comm (b := error)]
  | segments segments => simp [extendEndpoint, Url.isBase, path]

/-- A client is made exactly for an endpoint that can be extended. -/
theorem exists_connect_iff {config : ClientConfig} {credentials : Credentials} :
    (∃ client, connect config credentials = .ok client) ↔
      ∃ endpoint, Url.parse config.endpoint.toList = .ok endpoint ∧ endpoint.isBase = true := by
  cases parsed : Url.parse config.endpoint.toList with
  | error flaw => simp [connect_of_flaw parsed]
  | ok endpoint =>
    cases base : endpoint.isBase with
    | false => simp [connect_of_not_base parsed base, base]
    | true => simp [connect_of_base parsed base, base]

/-- What the cloud is asked for is never missing for the configuration. -/
theorem not_blamesSettings_of_get {url : Url} {decode : String → Except Json.Failure α}
    {backend : Backend} {error : ClientError}
    (failed : (client.get url decode backend).result = .error error) : ¬error.BlamesSettings := by
  intro blames
  rcases get_result_kinds client url decode backend with
    ⟨value, isOk⟩ | isTransport | ⟨status, body, isApi⟩ | ⟨source, failure, isUndecodable⟩
  · cases failed.symm.trans isOk
  · cases failed.symm.trans isTransport
    cases blames
  · cases failed.symm.trans isApi
    cases blames
  · cases failed.symm.trans isUndecodable
    cases blames

end Client

/-! ## Making a resolver -/

/-- Settings are refused for their endpoint, which is no URL, or one that cannot be extended. -/
inductive Settings.RefusedFor (settings : Settings) : ClientError → Prop where
  | flawed {flaw : Url.Flaw} (refused : Url.parse settings.endpoint.toList = .error flaw) :
      RefusedFor settings (.invalidUrl flaw)
  | notBase {endpoint : Url} (parsed : Url.parse settings.endpoint.toList = .ok endpoint)
      (notBase : endpoint.isBase = false) :
      RefusedFor settings
        (.invalidConfig ("endpoint " ++ settings.endpoint ++ " cannot be used as a base URL"))

/-- Settings are not refused for a project that is missing. -/
theorem Settings.RefusedFor.ne_missingProject {settings : Settings} :
    ¬settings.RefusedFor (.invalidConfig Credentials.missingProject) := by
  intro refused
  generalize isMissing : ClientError.invalidConfig Credentials.missingProject = error at refused
  cases refused with
  | flawed => cases isMissing
  | notBase =>
    have same := congrArg String.toList (ClientError.invalidConfig.inj isMissing)
    simp [Credentials.missingProject] at same

namespace Resolver

variable {α : Type} {resolver : Resolver} {settings : Settings} {backend : Backend} {subject : Subject}

/-- No resolver is made of settings with a project exactly if they are refused for their endpoint. -/
theorem ofSettings_eq_error_iff (named : settings.projectId ≠ "") {error : ClientError} :
    ofSettings settings = .error error ↔ settings.RefusedFor error := by
  constructor
  · intro failed
    cases parsed : Url.parse settings.endpoint.toList with
    | error flaw =>
      cases failed.symm.trans (ofSettings_of_flaw named parsed)
      exact .flawed parsed
    | ok endpoint =>
      cases base : endpoint.isBase with
      | false =>
        cases failed.symm.trans (ofSettings_of_not_base named parsed base)
        exact .notBase parsed base
      | true => cases failed.symm.trans (ofSettings_of_base named parsed base)
  · intro refused
    cases refused with
    | flawed refused => exact ofSettings_of_flaw named refused
    | notBase parsed notBase => exact ofSettings_of_not_base named parsed notBase

/-! ## Looking servers up -/

/-- The source of a failed lookup of a server is what the cloud was asked for. -/
theorem judgeServer_eq_client {id key : String} {answer : Except ClientError Server}
    {source : ClientError} (judged : judgeServer id answer = .error (.client key source)) :
    answer = .error source := by
  cases answer with
  | ok server => cases judged
  | error error =>
    rw [judgeServer] at judged
    split at judged <;> cases judged
    rfl

/-- So is that of a failed search. -/
theorem judgeListing_eq_client {name key : String} {answer : Except ClientError Listing}
    {source : ClientError} (judged : judgeListing name answer = .error (.client key source)) :
    answer = .error source := by
  cases answer with
  | error error =>
    cases judged
    rfl
  | ok listing =>
    rw [judgeListing, onlyServer] at judged
    split at judged
    · cases judged
    · split at judged <;> cases judged
    · cases judged

/-- No lookup blames the configuration. -/
theorem not_blamesSettings_of_lookUp {error : LookupError}
    (failed : (resolver.lookUp backend subject).result = .error error) : ¬error.BlamesSettings := by
  rintro ⟨key, source, rfl, blames⟩
  cases subject with
  | providerId providerId =>
    rw [lookUp] at failed
    cases accepted : namesNoServer (resolver.serverId providerId) with
    | true =>
      rw [byProviderId_of_namesNoServer accepted] at failed
      cases failed
    | false =>
      rw [byProviderId_of_namesServer accepted, Client.showServer_eq] at failed
      exact Client.not_blamesSettings_of_get (judgeServer_eq_client failed) blames
  | nodeName name =>
    rw [lookUp, byName, Client.listServers_eq] at failed
    exact Client.not_blamesSettings_of_get (judgeListing_eq_client failed) blames

/-- A reply that blames the configuration is about a lookup that does. -/
theorem blamesSettings_of_reply {found : Exchanged (Except LookupError Server)}
    {answer : Server → Except LookupError α} {error : ContractError}
    (own : ∀ server cause, answer server = .error cause → ¬cause.BlamesSettings)
    (failed : (reply found answer).result = .error error) (blames : error.BlamesSettings) :
    ∃ cause, found.result = .error cause ∧ cause.BlamesSettings := by
  cases looked : found.result with
  | error cause =>
    cases failed.symm.trans (reply_of_error looked)
    exact ⟨cause, rfl, .of_ofLookup blames⟩
  | ok server =>
    rw [reply_of_found looked] at failed
    cases read : answer server with
    | ok value =>
      rw [read] at failed
      cases failed
    | error cause =>
      rw [read] at failed
      cases failed
      exact absurd (.of_ofLookup blames) (own server cause read)

/-- What a server does not tell is not blamed on the configuration. -/
theorem not_blamesSettings_of_instanceType {server : Server} {cause : LookupError}
    (failed : server.instanceType = .error cause) : ¬cause.BlamesSettings := by
  rintro ⟨key, source, rfl, -⟩
  unfold Server.instanceType at failed
  split at failed
  · cases failed
  · split at failed <;> cases failed

/-- An existence that blames the configuration is about a lookup that does. -/
theorem blamesSettings_of_existence {found : Except LookupError Server} {error : ContractError}
    (failed : existence found = .error error) (blames : error.BlamesSettings) :
    ∃ cause, found = .error cause ∧ cause.BlamesSettings := by
  cases found with
  | ok server => cases failed
  | error cause =>
    refine ⟨cause, rfl, ?_⟩
    cases cause with
    | notFound key => cases failed
    | _ =>
      cases failed
      exact .of_ofLookup blames

/-- A question about a server that blames the configuration has looked it up, and that does as well. -/
theorem blamesSettings_of_about {question : Question α} {error : ContractError}
    (about : question.About subject) (failed : (resolver.ask question backend).result = .error error)
    (blames : error.BlamesSettings) :
    ∃ cause, (resolver.lookUp backend subject).result = .error cause ∧ cause.BlamesSettings := by
  cases about with
  | nodeAddresses => exact blamesSettings_of_reply (by rintro _ _ ⟨⟩) failed blames
  | instanceId => exact blamesSettings_of_reply (by rintro _ _ ⟨⟩) failed blames
  | instanceType =>
    exact blamesSettings_of_reply (fun _ _ => not_blamesSettings_of_instanceType) failed blames
  | instanceExists => exact blamesSettings_of_existence failed blames
  | instanceShutdown => exact blamesSettings_of_reply (by rintro _ _ ⟨⟩) failed blames

/-- No question blames the configuration. -/
theorem not_blamesSettings_of_ask {question : Question α} {error : ContractError}
    (failed : (resolver.ask question backend).result = .error error) : ¬error.BlamesSettings := by
  intro blames
  rcases question.about_or_aside with ⟨subject, about⟩ | aside
  · obtain ⟨cause, looked, blamed⟩ := blamesSettings_of_about about failed blames
    exact not_blamesSettings_of_lookUp looked blamed
  · obtain ⟨cause, rfl, -⟩ := blames
    cases aside <;> cases failed

/-- A wrong configuration is noticed when a resolver is made, and not later. Of settings that are
complete none are refused but for their endpoint, and never for a missing project. An endpoint that would
lead to no URL has no client, so a client has a URL for everything that it is asked, and no lookup and no
question blames the configuration, whatever the backend does. -/
theorem misconfiguration_noticed {merged : PartialSettings} {settings : Settings}
    (complete : Settings.ofMerged merged = .ok settings) :
    (∀ error, ofSettings settings = .error error ↔ settings.RefusedFor error) ∧
      ofSettings settings ≠ .error (.invalidConfig Credentials.missingProject) ∧
      (∀ (config : ClientConfig) (credentials : Credentials),
        (∃ client, Client.connect config credentials = .ok client) ↔
          ∃ endpoint, Url.parse config.endpoint.toList = .ok endpoint ∧
            ∀ added error, Client.extendEndpoint endpoint added ≠ .error error) ∧
      ∀ client : Client,
        (∀ resource, ∃ url, client.urlOf resource = .ok url) ∧
        (∀ resource, client.urlOf [resource] = .ok (client.resourceUrl resource)) ∧
        (∀ (providerName : String) (subject : Subject) (backend : Backend) (error : LookupError),
          (lookUp ⟨client, providerName⟩ backend subject).result = .error error →
            ¬error.BlamesSettings) ∧
        ∀ (providerName : String) (β : Type) (question : Question β) (backend : Backend)
          (error : ContractError), (ask ⟨client, providerName⟩ question backend).result = .error error →
            ¬error.BlamesSettings := by
  have named : settings.projectId ≠ "" :=
    (nonempty?_eq_some_iff.mp (Settings.ofMerged_eq_ok_iff.mp complete).project).2
  have project : ofSettings settings ≠ .error (.invalidConfig Credentials.missingProject) := by
    rw [Ne, ofSettings_eq_error_iff named]
    exact Settings.RefusedFor.ne_missingProject
  refine ⟨fun error => ofSettings_eq_error_iff named, project, fun config credentials => ?_,
    fun client => ⟨fun resource => ?_, client.urlOf_resource, ?_, ?_⟩⟩
  · simp [Client.exists_connect_iff, Client.extendEndpoint_eq_error_iff]
  · exact ⟨_, Client.extendEndpoint_of_base client.base _⟩
  · exact fun providerName subject backend error => not_blamesSettings_of_lookUp
  · exact fun providerName β question backend error => not_blamesSettings_of_ask

/-- Settings for an address of mail are complete and refused for it, and a client for another endpoint has
all its URLs. -/
theorem misconfiguration_noticed_mail :
    Settings.ofMerged { endpoint := some "mailto:a", projectId := some "p" } =
        .ok { Settings.atRoot with endpoint := "mailto:a" } ∧
      ofSettings { Settings.atRoot with endpoint := "mailto:a" } =
        .error (.invalidConfig "endpoint mailto:a cannot be used as a base URL") ∧
      ∃ url, (Client.atRoot "p").urlOf ["a/b"] = .ok url := by
  have complete : Settings.ofMerged { endpoint := some "mailto:a", projectId := some "p" } =
      .ok { Settings.atRoot with endpoint := "mailto:a" } := by decide
  have parsed : Url.parse "mailto:a".toList =
      .ok { scheme := "mailto".toList, authority := none, path := .plain ['a'] } := by decide
  obtain ⟨refused, -, -, asked⟩ := misconfiguration_noticed complete
  exact ⟨complete, (refused _).mpr (.notBase parsed rfl), (asked (Client.atRoot "p")).1 ["a/b"]⟩

end Resolver

end NodeLookup
