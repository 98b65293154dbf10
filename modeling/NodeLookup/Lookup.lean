import NodeLookup.Client
import NodeLookup.Server.Projection
import NodeLookup.Text.Quoted

/-!
# Looking up servers

From the ID or the name of a node to the one server that it runs on. An ID that would name the
collection of servers is refused without a request, and a name is refused if the cloud counts several
servers of it.
-/

namespace NodeLookup

namespace ProviderId

/-! ## Provider IDs

A node names its server by a provider ID, the server's ID behind the provider's own prefix, as in
`huaweicloud://4c52…`. IDs from before the prefix was introduced are bare, and some carry it more
than once, so a lookup removes every leading copy. -/

/-- What stands between the provider's name and the server's ID. -/
def separator : List Char := [':', '/', '/']

/-- The prefix of the IDs of a provider. -/
def prefixOf (providerName : List Char) : List Char := providerName ++ separator

/-- A provider's prefix is never empty, whatever the provider is called. -/
@[simp] theorem length_prefixOf (providerName : List Char) :
    (prefixOf providerName).length = providerName.length + 3 := by
  simp [prefixOf, separator]

/-- Removes leading copies of `lead` from `text`, at most `limit` of them. -/
def dropCopies (lead : List Char) : (limit : Nat) → (text : List Char) → List Char
  | 0, text => text
  | limit + 1, text =>
    if lead.isPrefixOf text then dropCopies lead limit (text.drop lead.length) else text

/-- Removes every leading copy of the provider's prefix. A text holds no more copies of a nonempty
prefix than characters, so its length is limit enough. -/
def strip (providerName providerId : List Char) : List Char :=
  dropCopies (prefixOf providerName) providerId.length providerId

/-- The server ID inside a provider ID: what is left when every leading copy of the provider's
prefix has been removed. -/
def serverId (providerName providerId : String) : String :=
  String.ofList (strip providerName.toList providerId.toList)

end ProviderId

/-! ## Lookups -/

/-- Why a lookup failed. -/
inductive LookupError where
  | notFound (key : String)
  | invalidProviderId (providerId : String)
  | ambiguous (name : String) (count : Nat)
  | missingFlavor (serverId : String)
  | emptyFlavorId (serverId : String)
  | client (key : String) (error : ClientError)
deriving DecidableEq, Repr, Inhabited

/-- The words of a message for a failed lookup. -/
def LookupError.describe : LookupError → String
  | notFound key => "failed to find server " ++ key
  | invalidProviderId providerId =>
    "provider ID " ++ Text.quoted providerId ++ " does not name a server"
  | ambiguous name count =>
    "found " ++ toString count ++ " servers with the same name: " ++ name ++
      ", which is not allowed"
  | missingFlavor serverId =>
    "failed to parse instance type from server as flavor info missing, server ID: " ++ serverId
  | emptyFlavorId serverId => "flavor ID is empty, server ID: " ++ serverId
  | client key error => "failed to retrieve server " ++ key ++ ": " ++ error.describe

/-- The type of the node that runs on a server, which is the ID of its flavor. -/
def Server.instanceType (server : Server) : Except LookupError String :=
  match server.flavor with
  | none => .error (.missingFlavor server.id)
  | some flavor =>
    if flavor.id = "" then .error (.emptyFlavorId server.id) else .ok flavor.id

/-- Finds servers for nodes. -/
structure Resolver where
  client : Client
  providerName : String
deriving DecidableEq, Repr

namespace Resolver

/-- Whether an ID would name the collection of servers, or something above it, and no server. -/
def namesNoServer (id : String) : Bool := id == "" || id == "." || id == ".."

/-- What the answer for one server means for a lookup by its ID. -/
def judgeServer (id : String) : Except ClientError Server → Except LookupError Server
  | .ok server => .ok server
  | .error error =>
    if error.isNonExistent then .error (.notFound id) else .error (.client id error)

/-- Finds the server that a provider ID names. -/
def byProviderId (resolver : Resolver) (providerId : String) (backend : Backend) :
    Exchanged (Except LookupError Server) :=
  let id := ProviderId.serverId resolver.providerName providerId
  if namesNoServer id then .silent (.error (.invalidProviderId providerId))
  else (resolver.client.showServer id backend).map (judgeServer id)

/-- The only server of a listing, by the count that the cloud gives. -/
def onlyServer (name : String) (listing : Listing) : Except LookupError Server :=
  match listing.count.getD 0 with
  | 0 => .error (.notFound name)
  | 1 =>
    match listing.servers with
    | [] => .error (.notFound name)
    | server :: _ => .ok server
  | count => .error (.ambiguous name count)

/-- What the answer to a search means for a lookup by name. -/
def judgeListing (name : String) : Except ClientError Listing → Except LookupError Server
  | .ok listing => onlyServer name listing
  | .error error => .error (.client name error)

/-- Finds the only server of a name. -/
def byName (resolver : Resolver) (name : String) (backend : Backend) :
    Exchanged (Except LookupError Server) :=
  (resolver.client.listServers name backend).map (judgeListing name)

end Resolver

end NodeLookup
