import NodeLookup.Instances
import NodeLookup.Json.Value

/-!
# Commands

A command is one question of a cluster, asked by hand. Its answer is a value of a document: addresses
are a list of objects, and everything else is a string or a truth value.
-/

namespace NodeLookup

/-- The name of a command. -/
inductive CommandName where
  | nodeAddresses
  | instanceType
  | instanceExists
  | instanceShutdown
  | instanceId
  | currentNodeName
deriving DecidableEq, Repr, Inhabited

namespace CommandName

/-- All commands. -/
def all : List CommandName :=
  [nodeAddresses, instanceType, instanceExists, instanceShutdown, instanceId, currentNodeName]

/-- The word for a command. -/
def word : CommandName → String
  | nodeAddresses => "node-addresses"
  | instanceType => "instance-type"
  | instanceExists => "exists"
  | instanceShutdown => "shutdown"
  | instanceId => "instance-id"
  | currentNodeName => "current-node-name"

/-- The command that a word stands for. -/
def ofWord? (word : String) : Option CommandName := all.find? (·.word == word)

end CommandName

/-- A command with its operand. -/
inductive Command where
  | nodeAddresses (providerId : String)
  | instanceType (providerId : String)
  | instanceExists (providerId : String)
  | instanceShutdown (providerId : String)
  | instanceId (nodeName : String)
  /-- Asks for the name of the node on the machine of a name, on this machine if none is given. -/
  | currentNodeName (hostname : Option String)
deriving DecidableEq, Repr, Inhabited

/-- Makes a command. All but the last need an operand. -/
def CommandName.withOperand? : CommandName → Option String → Option Command
  | nodeAddresses, operand => operand.map .nodeAddresses
  | instanceType, operand => operand.map .instanceType
  | instanceExists, operand => operand.map .instanceExists
  | instanceShutdown, operand => operand.map .instanceShutdown
  | instanceId, operand => operand.map .instanceId
  | currentNodeName, operand => some (.currentNodeName operand)

/-- An address of a node as a value. -/
def NodeAddress.toValue (address : NodeAddress) : Json.Value :=
  .object [("address", .string address.address), ("type", .string address.kind.label)]

end NodeLookup
