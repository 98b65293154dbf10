import NodeLookup.Lookup

/-!
# The contract with the cluster

What a cluster asks about its nodes, whatever cloud they run on, and the errors that it acts on. A
node is deleted when its instance is reported as gone, so only a server that the cloud itself calls
missing counts as that.
-/

namespace NodeLookup

/-- The errors that a cluster acts on. -/
inductive ContractError where
  | instanceNotFound
  | notImplemented
  | other (cause : LookupError)
deriving DecidableEq, Repr, Inhabited

namespace ContractError

/-- The words of a message for a contract error. -/
def describe : ContractError → String
  | instanceNotFound => "instance not found"
  | notImplemented => "operation not implemented"
  | other cause => cause.describe

/-- What a failed lookup means to the cluster. -/
def ofLookup : LookupError → ContractError
  | .notFound _ => instanceNotFound
  | error => other error

end ContractError

/-- The answer to a question of the cluster. -/
abbrev Reply (α : Type) := Exchanged (Except ContractError α)

/-- The reply of a cloud that does not support a question. -/
def Reply.notImplemented {α : Type} : Reply α := .silent (.error .notImplemented)

/-- What a cluster can ask. A cloud need only answer the questions without a default. -/
structure Instances where
  nodeAddressesByProviderId : String → Reply (List NodeAddress)
  instanceId : String → Reply String
  instanceTypeByProviderId : String → Reply String
  instanceExistsByProviderId : String → Reply Bool
  instanceShutdownByProviderId : String → Reply Bool
  nodeAddresses : String → Reply (List NodeAddress) := fun _ => .notImplemented
  instanceType : String → Reply String := fun _ => .notImplemented
  addSshKeyToAllInstances : String → String → Reply Unit := fun _ _ => .notImplemented
  currentNodeName : String → Reply String := fun hostname => .silent (.ok hostname)

namespace Resolver

/-- Makes a reply from a lookup. -/
def reply {α : Type} (found : Exchanged (Except LookupError Server))
    (answer : Server → Except LookupError α) : Reply α :=
  found.map fun result => (result.bind answer).mapError ContractError.ofLookup

/-- What a lookup says about the existence of an instance. -/
def existence : Except LookupError Server → Except ContractError Bool
  | .ok _ => .ok true
  | .error (.notFound _) => .ok false
  | .error error => .error (.ofLookup error)

/-- The answers of the cloud that a resolver looks into. -/
def instances (resolver : Resolver) (backend : Backend) : Instances where
  nodeAddressesByProviderId providerId :=
    reply (resolver.byProviderId providerId backend) fun server => .ok server.nodeAddresses
  instanceId name := reply (resolver.byName name backend) fun server => .ok server.id
  instanceTypeByProviderId providerId :=
    reply (resolver.byProviderId providerId backend) Server.instanceType
  instanceExistsByProviderId providerId := (resolver.byProviderId providerId backend).map existence
  instanceShutdownByProviderId providerId :=
    reply (resolver.byProviderId providerId backend) fun server => .ok server.isShutDown

end Resolver

end NodeLookup
