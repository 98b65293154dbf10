import NodeLookup.Json.Value
import NodeLookup.Server

/-!
# Writing server records

A record is written with all its members, in the order of their declaration, `null` standing for what
is not known; addresses are an object from networks to lists.
-/

namespace NodeLookup

/-- An address as a value. -/
def Address.toValue (address : Address) : Json.Value :=
  .object [
    ("addr", .string address.addr),
    ("version", .ofString? address.version),
    ("OS-EXT-IPS:type", .string address.attachment),
    ("OS-EXT-IPS-MAC:mac_addr", .ofString? address.macAddress)]

/-- Address groups as a value. -/
def AddressGroup.toValue (groups : List AddressGroup) : Json.Value :=
  .object (groups.map fun group => (group.network, .list (group.addresses.map Address.toValue)))

/-- A flavor as a value. -/
def Flavor.toValue (flavor : Flavor) : Json.Value :=
  .object [
    ("id", .string flavor.id),
    ("name", .string flavor.name),
    ("vcpus", .ofString? flavor.vcpus),
    ("ram", .ofString? flavor.ram)]

/-- A server as a value. -/
def Server.toValue (server : Server) : Json.Value :=
  .object [
    ("id", .string server.id),
    ("name", .string server.name),
    ("status", .string server.status),
    ("addresses", AddressGroup.toValue server.addresses),
    ("flavor", (server.flavor.map Flavor.toValue).getD .null),
    ("OS-EXT-AZ:availability_zone", .ofString? server.zone),
    ("created", .ofString? server.created),
    ("updated", .ofString? server.updated)]

/-- The text of a server. -/
def Server.encode (server : Server) : String := String.ofList server.toValue.compact

end NodeLookup
