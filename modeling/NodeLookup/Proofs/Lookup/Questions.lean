import NodeLookup.Proofs.Lookup.Existence

/-!
# The questions of a cluster

A question is made into a value here, so that a statement can speak of all of them at once. Most are
about one server, which is looked up by a provider ID or by a name; the others are answered without the
cloud. By `ask_of_targets` the reply to a question about a server is one request for its target and a
judgement of what becomes of that request; by `ask_of_aside` and `ask_of_rejected` every other reply is
known beforehand.
-/

namespace NodeLookup

/-- A question of the cluster, by the type of its answer. -/
inductive Question : Type → Type where
  | nodeAddressesByProviderId (providerId : String) : Question (List NodeAddress)
  | instanceId (name : String) : Question String
  | instanceTypeByProviderId (providerId : String) : Question String
  | instanceExistsByProviderId (providerId : String) : Question Bool
  | instanceShutdownByProviderId (providerId : String) : Question Bool
  | nodeAddresses (name : String) : Question (List NodeAddress)
  | instanceType (name : String) : Question String
  | addSshKeyToAllInstances (user key : String) : Question Unit
  | currentNodeName (hostname : String) : Question String

/-- The reply to a question. -/
def Instances.ask (instances : Instances) {α : Type} : Question α → Reply α
  | .nodeAddressesByProviderId providerId => instances.nodeAddressesByProviderId providerId
  | .instanceId name => instances.instanceId name
  | .instanceTypeByProviderId providerId => instances.instanceTypeByProviderId providerId
  | .instanceExistsByProviderId providerId => instances.instanceExistsByProviderId providerId
  | .instanceShutdownByProviderId providerId => instances.instanceShutdownByProviderId providerId
  | .nodeAddresses name => instances.nodeAddresses name
  | .instanceType name => instances.instanceType name
  | .addSshKeyToAllInstances user key => instances.addSshKeyToAllInstances user key
  | .currentNodeName hostname => instances.currentNodeName hostname

/-- How the server that a question is about is named. -/
inductive Subject where
  | providerId (providerId : String)
  | nodeName (name : String)

namespace Question

variable {α : Type}

/-- A question is about one server. -/
inductive About : {α : Type} → Question α → Subject → Prop where
  | nodeAddresses (providerId : String) :
      About (nodeAddressesByProviderId providerId) (.providerId providerId)
  | instanceId (name : String) : About (.instanceId name) (.nodeName name)
  | instanceType (providerId : String) :
      About (instanceTypeByProviderId providerId) (.providerId providerId)
  | instanceExists (providerId : String) :
      About (instanceExistsByProviderId providerId) (.providerId providerId)
  | instanceShutdown (providerId : String) :
      About (instanceShutdownByProviderId providerId) (.providerId providerId)

/-- A question is about no server. -/
inductive Aside : {α : Type} → Question α → Prop where
  | nodeAddresses (name : String) : Aside (.nodeAddresses name)
  | instanceType (name : String) : Aside (.instanceType name)
  | addSshKeyToAllInstances (user key : String) : Aside (.addSshKeyToAllInstances user key)
  | currentNodeName (hostname : String) : Aside (.currentNodeName hostname)

/-- A question is about one server or about none. -/
theorem about_or_aside (question : Question α) : (∃ subject, question.About subject) ∨ question.Aside := by
  cases question with
  | nodeAddressesByProviderId providerId => exact .inl ⟨_, .nodeAddresses providerId⟩
  | instanceId name => exact .inl ⟨_, .instanceId name⟩
  | instanceTypeByProviderId providerId => exact .inl ⟨_, .instanceType providerId⟩
  | instanceExistsByProviderId providerId => exact .inl ⟨_, .instanceExists providerId⟩
  | instanceShutdownByProviderId providerId => exact .inl ⟨_, .instanceShutdown providerId⟩
  | nodeAddresses name => exact .inr (.nodeAddresses name)
  | instanceType name => exact .inr (.instanceType name)
  | addSshKeyToAllInstances user key => exact .inr (.addSshKeyToAllInstances user key)
  | currentNodeName hostname => exact .inr (.currentNodeName hostname)

end Question

namespace Resolver

variable {α : Type} {resolver : Resolver} {question : Question α} {subject : Subject} {key : String}
  {url : Url}

/-- The reply of a resolver to a question, by what the backend does. -/
def ask (resolver : Resolver) (question : Question α) (backend : Backend) : Reply α :=
  (resolver.instances backend).ask question

/-- Looks up the server that a question is about. -/
def lookUp (resolver : Resolver) (backend : Backend) :
    Subject → Exchanged (Except LookupError Server)
  | .providerId providerId => resolver.byProviderId providerId backend
  | .nodeName name => resolver.byName name backend

/-- A server is looked up under a key, at a URL. A provider ID has to name a server for that. -/
inductive Targets (resolver : Resolver) : Subject → (key : String) → (url : Url) → Prop where
  | server {providerId : String} (namesServer : resolver.serverId providerId ∉ ["", ".", ".."]) :
      Targets resolver (.providerId providerId) (resolver.serverId providerId)
        (resolver.client.serverUrl (resolver.serverId providerId))
  | listing (name : String) :
      Targets resolver (.nodeName name) name (resolver.client.listingUrl name)

/-- A conclusion from a lookup passes on every failure but that a server is missing. -/
def PassesOn (conclude : Except LookupError Server → Except ContractError α) : Prop :=
  ∀ error, (∀ key, error ≠ .notFound key) → conclude (.error error) = .error (.other error)

/-- A failure that is not that a server is missing is none that the cluster acts on. -/
theorem ofLookup_eq_other {error : LookupError} (notMissing : ∀ key, error ≠ .notFound key) :
    ContractError.ofLookup error = .other error := by
  cases error with
  | notFound key => exact absurd rfl (notMissing key)
  | _ => rfl

/-- An answer that is read off a server passes on the failures of its lookup. -/
theorem passesOn_reply (answer : Server → Except LookupError α) :
    PassesOn fun found => (found.bind answer).mapError ContractError.ofLookup := by
  intro error notMissing
  exact congrArg Except.error (ofLookup_eq_other notMissing)

/-- The existence of an instance passes on the failures of its lookup. -/
theorem passesOn_existence : PassesOn existence := by
  intro error notMissing
  cases error with
  | notFound key => exact absurd rfl (notMissing key)
  | _ => rfl

/-- The reply to a question about a server is a conclusion from looking it up once. The conclusion is
the same for every resolver. -/
theorem ask_of_about (about : question.About subject) :
    ∃ conclude, PassesOn conclude ∧ ∀ (resolver : Resolver) (backend : Backend),
      resolver.ask question backend = (resolver.lookUp backend subject).map conclude := by
  cases about with
  | nodeAddresses providerId => exact ⟨_, passesOn_reply _, fun _ _ => rfl⟩
  | instanceId name => exact ⟨_, passesOn_reply _, fun _ _ => rfl⟩
  | instanceType providerId => exact ⟨_, passesOn_reply _, fun _ _ => rfl⟩
  | instanceExists providerId => exact ⟨_, passesOn_existence, fun _ _ => rfl⟩
  | instanceShutdown providerId => exact ⟨_, passesOn_reply _, fun _ _ => rfl⟩

/-- A question about no server is answered without the cloud, and by every resolver alike. -/
theorem ask_of_aside (aside : question.Aside) :
    ∃ result, ∀ (resolver : Resolver) (backend : Backend),
      resolver.ask question backend = .silent result := by
  cases aside <;> exact ⟨_, fun _ _ => rfl⟩

/-- A lookup with a target is one request for it, and a judgement of what becomes of the request. -/
theorem lookUp_of_targets (targets : resolver.Targets subject key url) :
    ∃ judge : Delivery → Except LookupError Server,
      judge .unreachable = .error (.client key .transport) ∧
      ∀ backend, resolver.lookUp backend subject =
        (Client.deliver (resolver.client.request url) backend).map judge := by
  cases targets with
  | @server providerId namesServer =>
    have accepted : namesNoServer (resolver.serverId providerId) = false := by
      simpa using mt namesNoServer_iff.mp namesServer
    let id := resolver.serverId providerId
    refine ⟨judgeServer id ∘ Client.interpret (resolver.client.serverUrl id) Server.decodeAnswer, rfl,
      fun backend => ?_⟩
    rw [lookUp, byProviderId_of_namesServer accepted, Client.showServer_eq]
    rfl
  | listing =>
    refine ⟨judgeListing key ∘ Client.interpret (resolver.client.listingUrl key) Listing.decode, rfl,
      fun backend => ?_⟩
    rw [lookUp, byName, Client.listServers_eq]
    rfl

/-- So is the reply to a question about a server with a target. -/
theorem ask_of_targets (about : question.About subject)
    (targets : resolver.Targets subject key url) :
    ∃ judge : Delivery → Except ContractError α,
      judge .unreachable = .error (.other (.client key .transport)) ∧
      ∀ backend, resolver.ask question backend =
        (Client.deliver (resolver.client.request url) backend).map judge := by
  obtain ⟨conclude, passesOn, asked⟩ := ask_of_about about
  obtain ⟨judge, unreachable, lookedUp⟩ := lookUp_of_targets targets
  refine ⟨conclude ∘ judge, ?_, fun backend => ?_⟩
  · rw [Function.comp_apply, unreachable]
    exact passesOn _ (by simp)
  · rw [asked, lookedUp]
    rfl

/-- A question about a provider ID that names no server is refused without the cloud. -/
theorem ask_of_rejected {providerId : String} (about : question.About (.providerId providerId))
    (rejected : resolver.serverId providerId ∈ ["", ".", ".."]) (backend : Backend) :
    resolver.ask question backend = .silent (.error (.other (.invalidProviderId providerId))) := by
  obtain ⟨conclude, passesOn, asked⟩ := ask_of_about about
  rw [asked, lookUp, byProviderId_of_namesNoServer (namesNoServer_iff.mpr rejected)]
  exact congrArg Exchanged.silent (passesOn _ (by simp))

/-- A server is looked up at a target unless its provider ID is refused. -/
theorem exists_targets (subject : Subject) :
    (∃ key url, resolver.Targets subject key url) ∨
      ∃ providerId, subject = .providerId providerId ∧
        resolver.serverId providerId ∈ ["", ".", ".."] := by
  cases subject with
  | nodeName name => exact .inl ⟨_, _, .listing name⟩
  | providerId providerId =>
    by_cases rejected : resolver.serverId providerId ∈ ["", ".", ".."]
    · exact .inr ⟨providerId, rfl, rejected⟩
    · exact .inl ⟨_, _, .server rejected⟩

end Resolver

end NodeLookup
