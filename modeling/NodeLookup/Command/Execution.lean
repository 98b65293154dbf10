import NodeLookup.Command
import NodeLookup.Settings.File

/-!
# Executing commands

From a command and its options to an answer. Nothing is asked before all settings are known and the
client can be built; the name of a node needs neither.
-/

namespace NodeLookup

/-- Why a command has no answer. -/
inductive CommandError where
  | settings (error : SettingsError)
  | client (error : ClientError)
  | contract (error : ContractError)
deriving DecidableEq, Repr, Inhabited

namespace CommandError

/-- The words of a message for a command without an answer. -/
def describe : CommandError → String
  | settings error => error.describe
  | client error => error.describe
  | contract error => error.describe

end CommandError

/-- What a machine says its name is. -/
inductive HostState where
  | unreadable
  | bytes (bytes : List UInt8)
deriving DecidableEq, Repr, Inhabited

/-- A name that is text is one of bytes. -/
instance : Coe String HostState := ⟨fun name => .bytes (Text.encode name.toList)⟩

namespace HostState

/-- The name of a machine, which must be text. -/
def name : HostState → Except SettingsError String
  | unreadable => .error .unreadHostname
  | bytes written =>
    match Text.decode? written with
    | some text => .ok (String.ofList text)
    | none => .error .foreignHostname

/-- The name that is given, or that of the machine. -/
def nameOr (host : HostState) : Option String → Except SettingsError String
  | some given => .ok given
  | none => host.name

end HostState

/-- What a command finds around it. -/
structure Surroundings where
  fileAt : String → FileState
  hostname : HostState
  backend : Backend

/-- The resolver that settings describe. -/
def Resolver.ofSettings (settings : Settings) : Except ClientError Resolver := do
  let credentials ←
    (Credentials.build (some settings.projectId) settings.authToken).mapError .invalidConfig
  let client ←
    Client.connect { endpoint := settings.endpoint, timeout := settings.requestTimeout } credentials
  return { client, providerName := settings.providerName }

namespace Command

/-- Makes a reply what comes of a command, with the answer as a value. -/
def outcome {α : Type} (reply : Reply α) (value : α → Json.Value) :
    Exchanged (Except CommandError Json.Value) :=
  reply.map fun result => (result.map value).mapError .contract

/-- The answer to a command, on a machine with some name. -/
def answer (command : Command) (hostname : HostState) (instances : Instances) :
    Exchanged (Except CommandError Json.Value) :=
  match command with
  | .nodeAddresses providerId =>
    outcome (instances.nodeAddressesByProviderId providerId) fun addresses =>
      .list (addresses.map NodeAddress.toValue)
  | .instanceType providerId => outcome (instances.instanceTypeByProviderId providerId) .string
  | .instanceExists providerId => outcome (instances.instanceExistsByProviderId providerId) .boolean
  | .instanceShutdown providerId =>
    outcome (instances.instanceShutdownByProviderId providerId) .boolean
  | .instanceId nodeName => outcome (instances.instanceId nodeName) .string
  | .currentNodeName given =>
    match hostname.nameOr given with
    | .error error => .silent (.error (.settings error))
    | .ok name => outcome (instances.currentNodeName name) .string

/-- Builds the resolver that options describe. -/
def resolver (options : Options) (surroundings : Surroundings) : Except CommandError Resolver := do
  let settings ← (options.settings surroundings.fileAt).mapError .settings
  (Resolver.ofSettings settings).mapError .client

/-- Puts a command to the cloud that the options describe. -/
def ask (command : Command) (options : Options) (surroundings : Surroundings) :
    Exchanged (Except CommandError Json.Value) :=
  match resolver options surroundings with
  | .error error => .silent (.error error)
  | .ok resolver =>
    command.answer surroundings.hostname (resolver.instances surroundings.backend)

/-- Executes a command. The name of a node is known without the cloud, so it needs no settings. -/
def execute (command : Command) (options : Options) (surroundings : Surroundings) :
    Exchanged (Except CommandError Json.Value) :=
  match command with
  | .currentNodeName given =>
    .silent (((surroundings.hostname.nameOr given).map .string).mapError .settings)
  | command => command.ask options surroundings

/-- The request that a command comes to make, if it makes one: what a backend that never answers would
receive. No command makes a second one. -/
def request? (command : Command) (options : Options) (surroundings : Surroundings) : Option Request :=
  (command.execute options { surroundings with backend := fun _ => .unanswered }).requests.head?

end Command

/-- The text that is printed for an answer: the value, indented, and the end of the line. -/
def printedAnswer (answer : Json.Value) : String := String.ofList (answer.indented 0 ++ ['\n'])

end NodeLookup
