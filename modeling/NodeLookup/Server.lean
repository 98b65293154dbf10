/-!
# Server records

What the cloud says about one server. Everything but the server's ID and the addresses themselves
may be left out of a record.
-/

namespace NodeLookup

/-- One address of a server. -/
structure Address where
  addr : String
  version : Option String := none
  /-- How the address is attached: `fixed`, `floating`, or whatever else the cloud says. -/
  attachment : String := ""
  macAddress : Option String := none
deriving DecidableEq, Repr, Inhabited

/-- The addresses that a server has on one network. -/
structure AddressGroup where
  network : String
  addresses : List Address
deriving DecidableEq, Repr, Inhabited

/-- The size of a server. -/
structure Flavor where
  id : String := ""
  name : String := ""
  vcpus : Option String := none
  ram : Option String := none
deriving DecidableEq, Repr, Inhabited

/-- A server. -/
structure Server where
  id : String
  name : String := ""
  status : String := ""
  /-- The addresses by network, in the cloud's order; a network may occur more than once. -/
  addresses : List AddressGroup := []
  flavor : Option Flavor := none
  zone : Option String := none
  created : Option String := none
  updated : Option String := none
deriving DecidableEq, Repr, Inhabited

/-- The cloud's answer to a search for servers. -/
structure Listing where
  count : Option Nat := none
  servers : List Server := []
deriving DecidableEq, Repr, Inhabited

end NodeLookup
