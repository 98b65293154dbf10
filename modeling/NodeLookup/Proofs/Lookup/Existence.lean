import NodeLookup.Instances
import NodeLookup.Proofs.Client.Answering

/-!
# When an instance is reported as gone

A cluster deletes a node whose instance is reported as gone. `instanceExists_result` says exactly when
that happens, when an instance is reported to exist, and that everything else is an error that the
cluster does not act on.
-/

namespace NodeLookup.Resolver

variable {resolver : Resolver} {providerId : String} {backend : Backend}

/-- The server ID that a resolver sees in a provider ID. -/
abbrev serverId (resolver : Resolver) (providerId : String) : String :=
  ProviderId.serverId resolver.providerName providerId

/-- A resolver for a project at the root of a host. -/
def atRoot (projectId : String := "p") (authentication : Authentication := .anonymous)
    (user : List Char := []) : Resolver where
  client := .atRoot projectId authentication user
  providerName := "huaweicloud"

/-- The server ID in a provider ID names a server, and the backend answers the request for it. -/
structure Answered (resolver : Resolver) (providerId : String) (backend : Backend)
    (response : Response) : Prop where
  namesServer : resolver.serverId providerId ∉ ["", ".", ".."]
  answered : resolver.client.Answered
    (resolver.client.serverUrl (resolver.serverId providerId)) backend response

/-- The cloud refuses to show the server, with an envelope that says that it does not exist. -/
def ReportsMissing (resolver : Resolver) (providerId : String) (backend : Backend) : Prop :=
  ∃ response, resolver.Answered providerId backend response ∧
    ¬(200 ≤ response.status ∧ response.status ≤ 299) ∧
    ∃ envelope, ServiceError.ofBody? response.text = some envelope ∧ envelope.code = "Ecs.0114"

/-- The cloud shows a record of the server, whatever it says about it. -/
def ReportsServer (resolver : Resolver) (providerId : String) (backend : Backend) : Prop :=
  ∃ response, resolver.Answered providerId backend response ∧
    (200 ≤ response.status ∧ response.status ≤ 299) ∧
    ∃ server, Server.decodeAnswer response.text = .ok server

/-- An ID names no server exactly if it is empty or a dot segment. -/
theorem namesNoServer_iff {id : String} : namesNoServer id = true ↔ id ∈ ["", ".", ".."] := by
  simp [namesNoServer, or_assoc]

/-- An ID that names no server is refused without a request. -/
theorem byProviderId_of_namesNoServer
    (rejected : namesNoServer (resolver.serverId providerId) = true) :
    resolver.byProviderId providerId backend = .silent (.error (.invalidProviderId providerId)) := by
  simp [byProviderId, rejected]

/-- An ID that may name a server is looked up. -/
theorem byProviderId_of_namesServer
    (accepted : namesNoServer (resolver.serverId providerId) = false) :
    resolver.byProviderId providerId backend =
      (resolver.client.showServer (resolver.serverId providerId)
        backend).map (judgeServer (resolver.serverId providerId)) := by
  simp [byProviderId, accepted]

/-- A lookup judges an answer to be a server exactly if it is one. -/
theorem judgeServer_eq_ok_iff {id : String} {answer : Except ClientError Server} {server : Server} :
    judgeServer id answer = .ok server ↔ answer = .ok server := by
  cases answer with
  | ok shown => simp [judgeServer]
  | error error => cases gone : error.isNonExistent <;> simp [judgeServer, gone]

/-- A lookup judges a server to be missing exactly if the error says so. -/
theorem judgeServer_eq_notFound_iff {id key : String} {answer : Except ClientError Server} :
    judgeServer id answer = .error (.notFound key) ↔
      id = key ∧ ∃ error, answer = .error error ∧ error.isNonExistent = true := by
  cases answer with
  | ok shown => simp [judgeServer]
  | error error => cases gone : error.isNonExistent <;> simp [judgeServer, gone]

/-- A lookup finds a server exactly if the cloud shows one. -/
theorem byProviderId_found_iff :
    (∃ server, (resolver.byProviderId providerId backend).result = .ok server) ↔
      resolver.ReportsServer providerId backend := by
  cases named : namesNoServer (resolver.serverId providerId) with
  | true =>
    have rejected := namesNoServer_iff.mp named
    rw [byProviderId_of_namesNoServer named]
    constructor
    · rintro ⟨server, found⟩
      cases found
    · rintro ⟨response, answered, -⟩
      exact absurd rejected answered.namesServer
  | false =>
    have accepted := mt namesNoServer_iff.mpr (Bool.not_eq_true _ ▸ named)
    simp only [byProviderId_of_namesServer named, Exchanged.result_map, judgeServer_eq_ok_iff,
      Client.showServer_eq, Client.get_result_eq_ok_iff]
    constructor
    · rintro ⟨server, response, answered, granted, read⟩
      exact ⟨response, ⟨accepted, answered⟩, Response.isSuccess_iff.mp granted, server, read⟩
    · rintro ⟨response, answered, granted, server, read⟩
      exact ⟨server, response, answered.answered, Response.isSuccess_iff.mpr granted, read⟩

/-- A lookup finds a server missing exactly if the cloud says that it does not exist. -/
theorem byProviderId_notFound_iff :
    (∃ key, (resolver.byProviderId providerId backend).result = .error (.notFound key)) ↔
      resolver.ReportsMissing providerId backend := by
  cases named : namesNoServer (resolver.serverId providerId) with
  | true =>
    have rejected := namesNoServer_iff.mp named
    rw [byProviderId_of_namesNoServer named]
    constructor
    · rintro ⟨key, found⟩
      cases found
    · rintro ⟨response, answered, -⟩
      exact absurd rejected answered.namesServer
  | false =>
    have accepted := mt namesNoServer_iff.mpr (Bool.not_eq_true _ ▸ named)
    simp only [byProviderId_of_namesServer named, Exchanged.result_map, judgeServer_eq_notFound_iff,
      Client.showServer_eq]
    constructor
    · rintro ⟨key, -, error, failed, gone⟩
      obtain ⟨status, body, envelope, rfl, parsed, code⟩ := ClientError.isNonExistent_iff.mp gone
      obtain ⟨response, answered, refused, -, rfl⟩ := Client.get_result_eq_api_iff.mp failed
      refine ⟨response, ⟨accepted, answered⟩, ?_, envelope, parsed, code⟩
      rw [← Response.isSuccess_iff, refused]
      simp
    · rintro ⟨response, answered, refused, envelope, parsed, code⟩
      rw [← Response.isSuccess_iff, Bool.not_eq_true] at refused
      exact ⟨_, rfl, .api response.status response.text,
        Client.get_result_eq_api_iff.mpr ⟨response, answered.answered, refused, rfl, rfl⟩,
        ClientError.isNonExistent_iff.mpr ⟨_, _, envelope, rfl, parsed, code⟩⟩

/-- An instance exists exactly if its server is found. -/
theorem existence_eq_true_iff {found : Except LookupError Server} :
    existence found = .ok true ↔ ∃ server, found = .ok server := by
  cases found with
  | ok server => simp [existence]
  | error error => cases error <;> simp [existence]

/-- An instance is gone exactly if its server is missing. -/
theorem existence_eq_false_iff {found : Except LookupError Server} :
    existence found = .ok false ↔ ∃ key, found = .error (.notFound key) := by
  cases found with
  | ok server => simp [existence]
  | error error => cases error <;> simp [existence]

/-- Whatever else fails is passed on as an error that is not acted on. -/
theorem existence_eq_error {found : Except LookupError Server} {error : ContractError}
    (failed : existence found = .error error) : ∃ cause, error = .other cause := by
  cases found with
  | ok server => simp [existence] at failed
  | error cause =>
    cases cause with
    | notFound key => simp [existence] at failed
    | _ =>
      simp only [existence, ContractError.ofLookup, Except.error.injEq] at failed
      exact ⟨_, failed.symm⟩

/-- An instance is reported as gone exactly if the cloud answers the request for its server with
another status than the two hundreds and an envelope with the code for a missing server. It is
reported to exist exactly if the cloud grants the request with a record that can be read. Everything
else is an error of which the cluster knows no more than that. -/
theorem instanceExists_result (resolver : Resolver) (providerId : String) (backend : Backend) :
    let result := ((resolver.instances backend).instanceExistsByProviderId providerId).result
    (result = .ok false ↔ resolver.ReportsMissing providerId backend) ∧
    (result = .ok true ↔ resolver.ReportsServer providerId backend) ∧
    ((∃ cause, result = .error (.other cause)) ↔
      ¬resolver.ReportsMissing providerId backend ∧ ¬resolver.ReportsServer providerId backend) ∧
    result ≠ .error .instanceNotFound := by
  intro result
  have gone : result = .ok false ↔ resolver.ReportsMissing providerId backend :=
    existence_eq_false_iff.trans byProviderId_notFound_iff
  have present : result = .ok true ↔ resolver.ReportsServer providerId backend :=
    existence_eq_true_iff.trans byProviderId_found_iff
  have other : ∀ error, result = .error error → ∃ cause, error = .other cause :=
    fun error failed => existence_eq_error failed
  rw [← gone, ← present]
  refine ⟨Iff.rfl, Iff.rfl, ⟨?_, ?_⟩, ?_⟩
  · rintro ⟨cause, failed⟩
    simp [failed]
  · rintro ⟨notGone, notPresent⟩
    cases outcome : result with
    | ok verdict => cases verdict <;> contradiction
    | error error =>
      obtain ⟨cause, rfl⟩ := other error outcome
      exact ⟨cause, rfl⟩
  · intro failed
    obtain ⟨cause, same⟩ := other _ failed
    cases same

end NodeLookup.Resolver
