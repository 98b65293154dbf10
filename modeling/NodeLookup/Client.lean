import NodeLookup.ClientError
import NodeLookup.Credentials
import NodeLookup.Exchange
import NodeLookup.Server.Reading
import NodeLookup.Text.Digits
import NodeLookup.Url.Parse
import NodeLookup.Url.Query

/-!
# The client

Asks the cloud for one server by its ID, or for the servers that match a name. Every request is made
from the endpoint and the credentials alone and is given to the HTTP client at most once.
-/

namespace NodeLookup

/-- What a client is made for. -/
structure ClientConfig where
  endpoint : String
  timeout : Nat := 30
deriving DecidableEq, Repr, Inhabited

/-- A client of the cloud, whose endpoint can be extended by path segments. -/
structure Client where
  endpoint : Url
  base : endpoint.isBase = true
  timeout : Nat
  credentials : Credentials
deriving DecidableEq, Repr

namespace Client

/-- Why an endpoint that is a URL cannot be used. -/
def unusableEndpoint (endpoint : String) : String :=
  "endpoint " ++ endpoint ++ " cannot be used as a base URL"

/-- A client as configured. -/
def connect (config : ClientConfig) (credentials : Credentials) : Except ClientError Client :=
  match Url.parse config.endpoint.toList with
  | .error flaw => .error (.invalidUrl flaw)
  | .ok endpoint =>
    if base : endpoint.isBase then .ok { endpoint, base, timeout := config.timeout, credentials }
    else .error (.invalidConfig (unusableEndpoint config.endpoint))

/-- The URL of a resource among the project's servers. -/
def resourceUrl (client : Client) (resource : String) : Url :=
  client.endpoint.extend
    [['v', '1'], client.credentials.projectId.toList, "cloudservers".toList, resource.toList]

/-- Why an endpoint without segments leads to no URL. -/
def unextendableEndpoint : String := "endpoint cannot be a base"

/-- The URL that segments lead to below an endpoint, which must have segments for that. -/
def extendEndpoint (endpoint : Url) (added : List (List Char)) : Except ClientError Url :=
  match endpoint.path with
  | .plain _ => .error (.invalidConfig unextendableEndpoint)
  | .segments _ => .ok (endpoint.extend added)

/-- The URL that segments lead to below the project's servers. -/
def urlOf (client : Client) (resource : List String) : Except ClientError Url :=
  extendEndpoint client.endpoint
    ([['v', '1'], client.credentials.projectId.toList, "cloudservers".toList] ++
      resource.map String.toList)

/-- An endpoint that can be extended leads to all URLs. -/
theorem extendEndpoint_of_base {endpoint : Url} (base : endpoint.isBase = true)
    (added : List (List Char)) : extendEndpoint endpoint added = .ok (endpoint.extend added) := by
  cases path : endpoint.path with
  | plain text => simp [Url.isBase, path] at base
  | segments segments => rw [extendEndpoint, path]

/-- No client is without URLs: its endpoint was found fit when it was made. -/
theorem urlOf_resource (client : Client) (resource : String) :
    client.urlOf [resource] = .ok (client.resourceUrl resource) :=
  extendEndpoint_of_base client.base _

/-- The URL of one server. -/
def serverUrl (client : Client) (id : String) : Url := client.resourceUrl id

/-- The URL of the list of servers that match a name. -/
def listingUrl (client : Client) (name : String) : Url :=
  (client.resourceUrl "detail").appendPair "name".toList name.toList

/-- User name and password of an endpoint as a header value, if it has any that are text. A password
that is not text is none. -/
def basicAuthorization? (authority : Url.Authority) : Option String :=
  match Text.decode? (Url.percentDecode (Text.encode authority.user)) with
  | none => none
  | some user =>
    let password := Text.decode? (Url.percentDecode (Text.encode authority.password))
    if user.isEmpty && (password.getD []).isEmpty then none
    else
      some ("Basic " ++ String.ofList (Text.base64 (Text.encode (user ++ ':' :: password.getD []))))

/-- The header that carries a token. -/
def tokenHeader : Authentication → List (String × String)
  | .anonymous => []
  | .token value => [("x-auth-token", value)]

/-- The header that carries user name and password. -/
def authorizationHeader (url : Url) : List (String × String) :=
  match url.authority.bind basicAuthorization? with
  | none => []
  | some value => [("authorization", value)]

/-- The request for a URL. -/
def request (client : Client) (url : Url) : Request where
  url := url
  headers :=
    [("accept", "application/json"), ("x-project-id", client.credentials.projectId)] ++
      tokenHeader client.credentials.authentication ++ authorizationHeader url

/-- Gives a request to the HTTP client, if it can be given. -/
def deliver (request : Request) (backend : Backend) : Exchanged Delivery :=
  if request.isSendable then
    let delivery := backend request
    ⟨if delivery.isReceived then [request] else [], delivery⟩
  else .silent .unreachable

/-- What a delivery means for a question whose answer is read by `decode`. -/
def interpret {α : Type} (url : Url) (decode : String → Except Json.Failure α) :
    Delivery → Except ClientError α
  | .unreachable => .error .transport
  | .unanswered => .error .transport
  | .answered response =>
    if response.isSuccess then
      match decode response.text with
      | .ok value => .ok value
      | .error failure => .error (.undecodable (String.ofList url.render) failure)
    else .error (.api response.status response.text)

/-- Asks for what a URL names. -/
def get {α : Type} (client : Client) (url : Url) (decode : String → Except Json.Failure α)
    (backend : Backend) : Exchanged (Except ClientError α) :=
  (deliver (client.request url) backend).map (interpret url decode)

/-- Asks for one server. -/
def showServer (client : Client) (id : String) (backend : Backend) :
    Exchanged (Except ClientError Server) :=
  match client.urlOf [id] with
  | .error error => .silent (.error error)
  | .ok url => client.get url Server.decodeAnswer backend

/-- Asks for the servers that match a name. -/
def listServers (client : Client) (name : String) (backend : Backend) :
    Exchanged (Except ClientError Listing) :=
  match client.urlOf ["detail"] with
  | .error error => .silent (.error error)
  | .ok url => client.get (url.appendPair "name".toList name.toList) Listing.decode backend

/-- A server is asked for at its own URL. -/
theorem showServer_eq (client : Client) (id : String) (backend : Backend) :
    client.showServer id backend = client.get (client.serverUrl id) Server.decodeAnswer backend := by
  rw [showServer, urlOf_resource]
  rfl

/-- The servers that match a name are asked for at the URL of the list of them. -/
theorem listServers_eq (client : Client) (name : String) (backend : Backend) :
    client.listServers name backend = client.get (client.listingUrl name) Listing.decode backend := by
  rw [listServers, urlOf_resource]
  rfl

end Client

end NodeLookup
