import NodeLookup.Proofs.Lookup.Existence

/-!
# What the questions about one provider ID have in common

A cluster asks four questions about a node by its provider ID, each of which makes a lookup of its own
and treats its failure in its own way. `providerIdQuestions_agree` says that the four answers still fit
together: `byProviderId_cases` lists what a lookup can come to, and each question is followed through
each of these.
-/

namespace NodeLookup.Resolver

variable {resolver : Resolver} {providerId : String} {backend : Backend}

/-- The cloud shows the server in a provider ID. -/
structure Shows (resolver : Resolver) (providerId : String) (backend : Backend) (server : Server) :
    Prop where
  namesServer : resolver.serverId providerId ∉ ["", ".", ".."]
  shown : (resolver.client.showServer (resolver.serverId providerId) backend).result = .ok server

/-- Why a lookup tells nothing about a server: its ID names none, which is reported with the whole
provider ID, or the client failed to show it, which is reported with the ID that it asked for. -/
inductive FailsWith (resolver : Resolver) (providerId : String) (backend : Backend) :
    LookupError → Prop where
  | invalid (namesNone : resolver.serverId providerId ∈ ["", ".", ".."]) :
      FailsWith resolver providerId backend (.invalidProviderId providerId)
  | client {error : ClientError} (namesServer : resolver.serverId providerId ∉ ["", ".", ".."])
      (failed : (resolver.client.showServer (resolver.serverId providerId) backend).result =
        .error error)
      (notMissing : error.isNonExistent = false) :
      FailsWith resolver providerId backend (.client (resolver.serverId providerId) error)

/-- A lookup finds the server that the cloud shows, or finds it missing, or fails without telling. -/
theorem byProviderId_cases (resolver : Resolver) (providerId : String) (backend : Backend) :
    (∃ server, resolver.Shows providerId backend server ∧
      (resolver.byProviderId providerId backend).result = .ok server) ∨
    (∃ key, (resolver.byProviderId providerId backend).result = .error (.notFound key)) ∨
    ∃ cause, resolver.FailsWith providerId backend cause ∧
      (resolver.byProviderId providerId backend).result = .error cause := by
  cases named : namesNoServer (resolver.serverId providerId) with
  | true =>
    rw [byProviderId_of_namesNoServer named]
    exact .inr (.inr ⟨_, .invalid (namesNoServer_iff.mp named), rfl⟩)
  | false =>
    have namesServer := mt namesNoServer_iff.mpr (Bool.not_eq_true _ ▸ named)
    rw [byProviderId_of_namesServer named, Exchanged.result_map]
    cases answer : (resolver.client.showServer (resolver.serverId providerId) backend).result with
    | ok server => exact .inl ⟨server, ⟨namesServer, answer⟩, rfl⟩
    | error error =>
      cases gone : error.isNonExistent with
      | true => exact .inr (.inl ⟨_, by rw [judgeServer, if_pos gone]⟩)
      | false =>
        refine .inr (.inr ⟨_, .client namesServer answer gone, ?_⟩)
        rw [judgeServer, gone]
        rfl

/-- A failure that tells nothing about a server is passed on as it is. -/
theorem FailsWith.ofLookup_eq {cause : LookupError}
    (fails : resolver.FailsWith providerId backend cause) :
    ContractError.ofLookup cause = .other cause := by
  cases fails <;> rfl

/-- A failure that tells nothing about a server does not make it gone. -/
theorem FailsWith.existence_eq {cause : LookupError}
    (fails : resolver.FailsWith providerId backend cause) :
    existence (.error cause) = .error (.other cause) := by
  cases fails <;> rfl

section Reply

variable {α : Type} {found : Exchanged (Except LookupError Server)}
  {answer : Server → Except LookupError α}

/-- The reply about a server that is found is read off the server. -/
theorem reply_of_found {server : Server} (isFound : found.result = .ok server) :
    (reply found answer).result = (answer server).mapError ContractError.ofLookup := by
  rw [reply, Exchanged.result_map, isFound]
  rfl

/-- The reply about a server that is not found is the error of the lookup. -/
theorem reply_of_error {cause : LookupError} (failed : found.result = .error cause) :
    (reply found answer).result = .error (ContractError.ofLookup cause) := by
  rw [reply, Exchanged.result_map, failed]
  rfl

end Reply

/-- The type of an instance can be told from its server, or the server is to blame for having no flavor
or none with an ID. -/
theorem reply_instanceType_cases {found : Exchanged (Except LookupError Server)} {server : Server}
    (isFound : found.result = .ok server) :
    (∃ name, (reply found Server.instanceType).result = .ok name) ∨
      (reply found Server.instanceType).result = .error (.other (.missingFlavor server.id)) ∨
      (reply found Server.instanceType).result = .error (.other (.emptyFlavorId server.id)) := by
  rw [reply_of_found isFound, Server.instanceType]
  split
  · exact .inr (.inl rfl)
  · next flavor _ =>
    split
    · exact .inr (.inr rfl)
    · exact .inl ⟨flavor.id, rfl⟩

/-- The four questions about a provider ID send the same requests, and their answers agree: the
instance is gone exactly if any other question finds no instance; it exists exactly if its addresses
and its state can be told, and then its type can be told as well or its record is to blame; and
otherwise all four fail for the one reason that the lookup has. None of them is without an
implementation. -/
theorem providerIdQuestions_agree (resolver : Resolver) (providerId : String) (backend : Backend) :
    let addresses := (resolver.instances backend).nodeAddressesByProviderId providerId
    let instanceType := (resolver.instances backend).instanceTypeByProviderId providerId
    let presence := (resolver.instances backend).instanceExistsByProviderId providerId
    let shutdown := (resolver.instances backend).instanceShutdownByProviderId providerId
    (addresses.requests = presence.requests ∧ instanceType.requests = presence.requests ∧
      shutdown.requests = presence.requests) ∧
    ((presence.result = .ok false ↔ addresses.result = .error .instanceNotFound) ∧
      (presence.result = .ok false ↔ instanceType.result = .error .instanceNotFound) ∧
      (presence.result = .ok false ↔ shutdown.result = .error .instanceNotFound)) ∧
    (presence.result = .ok true ↔
      (∃ list, addresses.result = .ok list) ∧ ∃ isDown, shutdown.result = .ok isDown) ∧
    (presence.result = .ok true → ∃ server, resolver.Shows providerId backend server ∧
      ((∃ name, instanceType.result = .ok name) ∨
        instanceType.result = .error (.other (.missingFlavor server.id)) ∨
        instanceType.result = .error (.other (.emptyFlavorId server.id)))) ∧
    (presence.result ≠ .ok false → presence.result ≠ .ok true →
      ∃ cause, resolver.FailsWith providerId backend cause ∧
        addresses.result = .error (.other cause) ∧ instanceType.result = .error (.other cause) ∧
        presence.result = .error (.other cause) ∧ shutdown.result = .error (.other cause)) ∧
    addresses.result ≠ .error .notImplemented ∧ instanceType.result ≠ .error .notImplemented ∧
    presence.result ≠ .error .notImplemented ∧ shutdown.result ≠ .error .notImplemented := by
  intro addresses instanceType presence shutdown
  have judged : presence.result = existence (resolver.byProviderId providerId backend).result := rfl
  refine ⟨⟨rfl, rfl, rfl⟩, ?_⟩
  rcases byProviderId_cases resolver providerId backend with
    ⟨server, shows, found⟩ | ⟨key, missing⟩ | ⟨cause, fails, failed⟩
  · have isThere : presence.result = .ok true := by rw [judged, found, existence]
    have listed : addresses.result = .ok server.nodeAddresses := reply_of_found found
    have told : shutdown.result = .ok server.isShutDown := reply_of_found found
    have typed : (∃ name, instanceType.result = .ok name) ∨
        instanceType.result = .error (.other (.missingFlavor server.id)) ∨
        instanceType.result = .error (.other (.emptyFlavorId server.id)) :=
      reply_instanceType_cases found
    have notGone : instanceType.result ≠ .error .instanceNotFound ∧
        instanceType.result ≠ .error .notImplemented := by
      rcases typed with ⟨name, isType⟩ | noFlavor | noId
      · simp [isType]
      · simp [noFlavor]
      · simp [noId]
    have record : ∃ server, resolver.Shows providerId backend server ∧
        ((∃ name, instanceType.result = .ok name) ∨
          instanceType.result = .error (.other (.missingFlavor server.id)) ∨
          instanceType.result = .error (.other (.emptyFlavorId server.id))) :=
      ⟨server, shows, typed⟩
    simp [isThere, listed, told, notGone, record]
  · have gone : presence.result = .ok false := by rw [judged, missing, existence]
    have noAddresses : addresses.result = .error .instanceNotFound := reply_of_error missing
    have noType : instanceType.result = .error .instanceNotFound := reply_of_error missing
    have noState : shutdown.result = .error .instanceNotFound := reply_of_error missing
    simp [gone, noAddresses, noType, noState]
  · have unknown : presence.result = .error (.other cause) := by
      rw [judged, failed, fails.existence_eq]
    have passedOn : ∀ {α : Type} {answer : Server → Except LookupError α},
        (reply (resolver.byProviderId providerId backend) answer).result = .error (.other cause) := by
      intro α answer
      rw [reply_of_error failed, fails.ofLookup_eq]
    have noAddresses : addresses.result = .error (.other cause) := passedOn
    have noType : instanceType.result = .error (.other cause) := passedOn
    have noState : shutdown.result = .error (.other cause) := passedOn
    simp [unknown, noAddresses, noType, noState, fails]

end NodeLookup.Resolver
