import NodeLookup.Json.Reader
import NodeLookup.Server

/-!
# Reading server records

The shapes of the records in the cloud's answers. Addresses are an object from networks to lists,
read member by member so that order and repetition survive, and `null` stands for no addresses.
-/

namespace NodeLookup

open Json (Member Record)

/-- The shape of an address. -/
def Address.record : Record Address where
  name := "ServerAddress"
  members := [
    .of "addr" true Json.stringValue fun value address => { address with addr := value },
    .of "version" false (Json.optional Json.stringValue) fun value address =>
      { address with version := value },
    .of "OS-EXT-IPS:type" false Json.stringValue fun value address => { address with attachment := value },
    .of "OS-EXT-IPS-MAC:mac_addr" false (Json.optional Json.stringValue) fun value address =>
      { address with macAddress := value }]
  blank := { addr := "" }

/-- The shape of a flavor. -/
def Flavor.record : Record Flavor where
  name := "ServerFlavor"
  members := [
    .of "id" false Json.stringValue fun value flavor => { flavor with id := value },
    .of "name" false Json.stringValue fun value flavor => { flavor with name := value },
    .of "vcpus" false (Json.optional Json.stringValue) fun value flavor => { flavor with vcpus := value },
    .of "ram" false (Json.optional Json.stringValue) fun value flavor => { flavor with ram := value }]
  blank := {}

namespace AddressGroup

/-- The words of a message for address groups. -/
def expectation : String := "a map of network IDs to address lists"

/-- What is unread when a list in place of address groups has been given the chance to close. -/
def afterList (text : List Char) : List Char :=
  match Json.skipBlank text with
  | ']' :: rest => rest
  | ',' :: rest => Json.skipBlank rest
  | rest => rest

/-- Reads address groups. -/
def read : Json.Reader (List AddressGroup) := fun text =>
  match Json.skipBlank text with
  | [] => .error (.before .endInValue [])
  | 'n' :: rest => do .ok ([], ← Json.word ['u', 'l', 'l'] rest)
  | '\x7b' :: rest => do
    let (entries, rest) ← Json.entries (Json.listOf Address.record.read) (rest.length + 1) true rest
    .ok (entries.map fun entry => ⟨entry.1, entry.2⟩, rest)
  | '[' :: rest => .error (.before (.invalidType .sequence expectation) (afterList rest))
  | rest => .error (Json.misfit expectation rest)

end AddressGroup

/-- The shape of a server. -/
def Server.record : Record Server where
  name := "ServerDetail"
  members := [
    .of "id" true Json.stringValue fun value server => { server with id := value },
    .of "name" false Json.stringValue fun value server => { server with name := value },
    .of "status" false Json.stringValue fun value server => { server with status := value },
    .of "addresses" false AddressGroup.read fun value server => { server with addresses := value },
    .of "flavor" false (Json.optional Flavor.record.read) fun value server =>
      { server with flavor := value },
    .of "OS-EXT-AZ:availability_zone" false (Json.optional Json.stringValue) fun value server =>
      { server with zone := value },
    .of "created" false (Json.optional Json.stringValue) fun value server =>
      { server with created := value },
    .of "updated" false (Json.optional Json.stringValue) fun value server =>
      { server with updated := value }]
  blank := { id := "" }

/-- The shape of the answer to a question for one server. -/
def Server.answer : Record Server where
  name := "ShowServerResponse"
  members := [.of "server" true Server.record.read fun value _ => value]
  blank := { id := "" }

/-- The shape of the answer to a search for servers. -/
def Listing.record : Record Listing where
  name := "ListServersDetailsResponse"
  members := [
    .of "count" false (Json.optional Json.countValue) fun value listing => { listing with count := value },
    .of "servers" false (Json.listOf Server.record.read) fun value listing =>
      { listing with servers := value }]
  blank := {}

/-- Reads a server on its own. -/
def Server.decode (body : String) : Except Json.Failure Server :=
  Json.decode Server.record.read body

/-- Reads the answer to a question for one server. -/
def Server.decodeAnswer (body : String) : Except Json.Failure Server :=
  Json.decode Server.answer.read body

/-- Reads the answer to a search for servers. -/
def Listing.decode (body : String) : Except Json.Failure Listing :=
  Json.decode Listing.record.read body

end NodeLookup
