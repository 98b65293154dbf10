import NodeLookup.Server

/-!
# What a node learns from its server

The parts of a server record that a node's status is made of: addresses, and whether the server is
shut down.
-/

namespace NodeLookup

/-- How a node can be reached by an address. -/
inductive AddressKind where
  | internal
  | external
deriving DecidableEq, Repr, Inhabited

/-- The name of a kind of address in a node's status. -/
def AddressKind.label : AddressKind → String
  | internal => "InternalIP"
  | external => "ExternalIP"

/-- An address in a node's status. -/
structure NodeAddress where
  kind : AddressKind
  address : String
deriving DecidableEq, Repr, Inhabited

/-- The kind of an address by the way it is attached. Only two ways make an address of a node. -/
def Address.kind? (address : Address) : Option AddressKind :=
  match address.attachment with
  | "fixed" => some .internal
  | "floating" => some .external
  | _ => none

/-- The address of a node that an address of its server is. -/
def Address.toNodeAddress? (address : Address) : Option NodeAddress :=
  address.kind?.map fun kind => ⟨kind, address.addr⟩

namespace Server

/-- The addresses of the node, in the cloud's order; addresses attached in other ways are left out. -/
def nodeAddresses (server : Server) : List NodeAddress :=
  server.addresses.flatMap fun group => group.addresses.filterMap Address.toNodeAddress?

/-- The power status of a server that is shut down. -/
def shutOff : String := "SHUTOFF"

/-- Whether the server is shut down. Any other status counts as running. -/
def isShutDown (server : Server) : Bool := server.status == shutOff

end Server

end NodeLookup
