import NodeLookup.Command.Execution
import NodeLookup.CommandLine.Reading
import NodeLookup.Exchange.Wire
import Std.Async

/-!
# The program

Reads the command line and the environment, carries the one request of a command over the network, and
prints the answer. What to ask and what the answer means is decided elsewhere.
-/

namespace NodeLookup.Main

open Std.Async

/-- The name and the version of the program. -/
def versionLine : String := "ecs-instances 0.1.0"

/-- The words that help starts with. -/
def usage : String :=
  "USAGE:\n    ecs-instances [OPTIONS] <COMMAND>\n\nOPTIONS:\n" ++
    String.join (CommandLine.ValueOption.all.map fun option =>
      "    --" ++ option.word ++ " <VALUE> [env: " ++ option.variableName ++ "]\n") ++
    "\nCOMMANDS:\n" ++ String.join (CommandName.all.map fun name => "    " ++ name.word ++ "\n")

/-- The words of a message for a mistake in the command line. -/
def describeStop : CommandLine.Stop → String
  | .help => usage
  | .version => versionLine
  | .unknownArgument => "error: an argument was not expected"
  | .missingCommand => usage
  | .missingOperand => "error: the command needs an argument"
  | .missingValue => "error: an option has no value"
  | .unfitValue => "error: the value of an option is not valid"
  | .repeatedOption => "error: an option was given more than once"

/-- What is at a path. -/
def readState (path : String) : IO FileState := do
  match ← (IO.FS.Handle.mk path .read).toBaseIO with
  | .error _ => return .missing
  | .ok handle =>
    match ← handle.readBinToEnd.toBaseIO with
    | .error _ => return .unreadable
    | .ok bytes => return .bytes bytes.toList

/-- What the machine says its name is. -/
def readHostname : IO HostState := do
  match ← Std.Async.System.getHostName.toBaseIO with
  | .error _ => return .unreadable
  | .ok name => return name

/-- The values that the environment gives to options. -/
def readEnvironment : IO CommandLine.Environment := do
  let values ← CommandLine.ValueOption.all.mapM fun option => do
    return (option, ← IO.getEnv option.variableName)
  return fun option => (values.lookup option).join

/-- The name of a host as the network knows it. -/
def hostName (request : Request) : String :=
  match request.url.authority with
  | none => ""
  | some authority =>
    match authority.host with
    | .ipv6 groups => String.ofList (Url.ipv6Text groups)
    | host => String.ofList host.render

/-- The place on the network that an address and a port are. -/
def socketAddress (address : Std.Net.IPAddr) (port : UInt16) : Std.Net.SocketAddress :=
  match address with
  | .v4 address => .v4 ⟨address, port⟩
  | .v6 address => .v6 ⟨address, port⟩

/-- How many bytes are taken at once. -/
def chunkSize : UInt64 := 65536

/-- Takes bytes until the connection ends. -/
partial def receiveAll (socket : TCP.Socket.Client) (received : ByteArray) : Async ByteArray := do
  match ← socket.recv? chunkSize with
  | none => return received
  | some bytes => receiveAll socket (received ++ bytes)

/-- Carries a request to its host, and takes what comes back. -/
def exchange (request : Request) : Async Arrival := do
  let addresses ← DNS.getAddrInfo (hostName request) (toString request.port)
  match addresses[0]? with
  | none => return .unreachable
  | some address =>
    let socket ← TCP.Socket.Client.mk
    socket.connect (socketAddress address (UInt16.ofNat request.port))
    socket.send (ByteArray.mk request.wire.toArray)
    let bytes ← receiveAll socket ByteArray.empty
    return .ofWire bytes.toList

/-- Carries a request through, for so many seconds at most. -/
def deliver (request : Request) (seconds : Nat) : IO Delivery := do
  let http := HttpClient.plain
  let early : Async Delivery := do
    let followed ← http.followBy (fun _ request => exchange request) http.limit [] request
    return http.deliveryOf followed.requests followed.result
  let late : Async Delivery := do
    sleep (.ofNat (seconds * 1000))
    return .unanswered
  match ← (Async.race early late).block.toBaseIO with
  | .ok delivery => return delivery
  | .error _ => return .unreachable

/-- How many seconds an answer may take under some options. -/
def timeoutOf (options : Options) (fileAt : String → FileState) : Nat :=
  match options.settings fileAt with
  | .ok settings => settings.requestTimeout
  | .error _ => Settings.defaultTimeout

/-- Executes a command. Its one request is carried out first, and then the command is worked out with
what became of it. -/
def run (options : Options) (command : Command) : IO (Except CommandError Json.Value) := do
  let state ←
    match options.configFile with
    | none => pure .missing
    | some path => readState path
  let surroundings : Surroundings := {
    fileAt := fun _ => state
    hostname := ← readHostname
    backend := fun _ => .unreachable }
  match command.request? options surroundings with
  | none => return (command.execute options surroundings).result
  | some request =>
    let delivery ← deliver request (timeoutOf options surroundings.fileAt)
    return (command.execute options { surroundings with backend := fun _ => delivery }).result

end NodeLookup.Main

open NodeLookup in
/-- Runs the program, and returns its exit code. -/
def main (arguments : List String) : IO UInt32 := do
  match CommandLine.read arguments (← Main.readEnvironment) with
  | .error stop =>
    if stop.isRequested then
      IO.println (Main.describeStop stop)
      return 0
    else
      IO.eprintln (Main.describeStop stop)
      return 1
  | .ok { options, command } =>
    match ← Main.run options command with
    | .ok answer =>
      IO.print (printedAnswer answer)
      return 0
    | .error error =>
      IO.eprintln ("Error: " ++ error.describe)
      return 1
