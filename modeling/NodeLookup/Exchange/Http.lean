import NodeLookup.Exchange

/-!
# The HTTP client

What happens to a request between the program and the network. The HTTP client sends it if it knows
its scheme, and as long as the answer names another place it asks there instead, up to a limit. The
last answer is handed over, and is read by the charset that its content type names. Which schemes and
charsets are known, how many redirections are followed and how a location is read is up to the HTTP
client, so all of it is left open here.
-/

namespace NodeLookup

namespace Url

/-- The port that a URL names or implies. -/
def port? (url : Url) : Option Nat :=
  (url.authority.bind (·.port)).or (impliedPort? (String.ofList url.scheme))

/-- Whether two URLs have the same host and the same port. -/
def sameHost (url other : Url) : Bool :=
  url.authority.map (·.host) == other.authority.map (·.host) && url.port? == other.port?

end Url

/-- An answer as it arrives, with its headers by name in lower case. -/
structure Answer where
  status : Nat
  headers : List (String × List UInt8) := []
  /-- The body, unless the connection ends before it does. -/
  body : Option (List UInt8) := some []
deriving DecidableEq, Repr, Inhabited

/-- The value of a header. -/
def Answer.header? (answer : Answer) (name : String) : Option (List UInt8) :=
  (answer.headers.find? fun header => header.1 == name).map (·.2)

/-- What the network does with a request. -/
inductive Arrival where
  | unreachable
  | unanswered
  | answered (answer : Answer)
deriving DecidableEq, Repr, Inhabited

/-- What a network does with each request, which may depend on those that it was sent before. -/
abbrev Network := (sent : List Request) → Request → Arrival

namespace Request

/-- What a redirected request tells of the URL that it comes from. On the way from an encrypted
connection to a plain one it tells nothing. -/
def referer? (source target : Url) : Option String :=
  let value := String.ofList source.renderTarget
  if source.scheme = "https".toList ∧ target.scheme = "http".toList then none
  else if isHeaderValue value then some value
  else none

/-- Sets a header, in place of those of the same name. -/
def withHeader (request : Request) (name value : String) : Request :=
  { request with headers := request.headers.filter (·.1 != name) ++ [(name, value)] }

/-- The request that a redirection to a URL leads to. User name and password are not told to another
host; every other header is kept. -/
def redirectedTo (request : Request) (target : Url) : Request :=
  let kept : Request := {
    url := target
    headers := request.headers.filter fun header =>
      header.1 != "authorization" || target.sameHost request.url }
  match referer? request.url target with
  | none => kept
  | some source => kept.withHeader "referer" source

end Request

/-- What an HTTP client is built to do. -/
structure HttpClient where
  schemes : List (List Char)
  /-- How many redirections of one request are followed. -/
  limit : Nat
  /-- The URL that a location names in an answer from a URL. -/
  locate : Url → List Char → Option Url
  /-- How a body is read whose content type names a charset that is known. -/
  charset? : List UInt8 → Option (List UInt8 → List Char)

namespace HttpClient

/-- The statuses that redirect a request. -/
def redirections : List Nat := [301, 302, 303, 307, 308]

/-- The request that an answer redirects to, if it names a place that can be found. -/
def redirected? (http : HttpClient) (request : Request) (answer : Answer) : Option Request :=
  if redirections.contains answer.status then do
    let location ← answer.header? "location"
    let text ← Text.decode? location
    let target ← http.locate request.url text
    some (request.redirectedTo target)
  else none

/-- What an arrival makes of a request: the exchange if it ends here, and the request to go on with. -/
def settle (http : HttpClient) (request : Request) :
    Arrival → Exchanged (Option Answer) × Option Request
  | .unreachable => (.silent none, none)
  | .unanswered => (⟨[request], none⟩, none)
  | .answered answer =>
    match http.redirected? request answer with
    | none => (⟨[request], some answer⟩, none)
    | some next => (⟨[request], none⟩, some next)

section Sending

variable {m : Type → Type} [Monad m] (http : HttpClient)
  (send : (sent : List Request) → Request → m Arrival)

/-- Sends a request after others, if its scheme is known. -/
def attempt (sent : List Request) (request : Request) :
    m (Exchanged (Option Answer) × Option Request) := do
  if http.schemes.contains request.url.scheme then return http.settle request (← send sent request)
  else return (.silent none, none)

/-- Sends a request after others, and those that it is redirected to after it, up to a limit. The result
is the answer that redirects no further. -/
def followBy : (limit : Nat) → (sent : List Request) → Request → m (Exchanged (Option Answer))
  | 0, sent, request => do return (← http.attempt send sent request).1
  | limit + 1, sent, request => do
    match ← http.attempt send sent request with
    | (settled, none) => return settled
    | (_, some next) => return (← followBy limit (sent ++ [request]) next).after request

end Sending

/-- Sends a request over a network, and those that it is redirected to. -/
def follow (http : HttpClient) (network : Network) (limit : Nat) (sent : List Request)
    (request : Request) : Exchanged (Option Answer) :=
  Id.run (http.followBy (fun sent request => pure (network sent request)) limit sent request)

/-- How a body is read that comes with an answer. -/
def reader (http : HttpClient) (answer : Answer) : List UInt8 → List Char :=
  ((answer.header? "content-type").bind http.charset?).getD Text.decodeLenient

/-- An answer as it is handed over. One without the whole of its body is not. -/
def handOver? (http : HttpClient) (answer : Answer) : Option Response :=
  answer.body.map fun body => { status := answer.status, body, read := http.reader answer }

/-- What is delivered of some requests that arrived and of the answer in which they end, if there is
one. -/
def deliveryOf (http : HttpClient) (requests : List Request) (final : Option Answer) : Delivery :=
  match final.bind http.handOver? with
  | some response => .answered response
  | none => if requests.isEmpty then .unreachable else .unanswered

/-- Sends a request, follows where it is redirected to and hands over the answer. -/
def deliver (http : HttpClient) (network : Network) (request : Request) : Exchanged Delivery :=
  let followed := http.follow network http.limit [] request
  followed.map (http.deliveryOf followed.requests)

/-- The backend that a network is, seen through an HTTP client. -/
def backend (http : HttpClient) (network : Network) : Backend := fun request =>
  (http.deliver network request).result

/-- An exchange as the network sees it: every request that is given to the HTTP client is sent, with all
that it is redirected to. -/
def run {α : Type} (http : HttpClient) (network : Network) (exchange : Backend → Exchanged α) :
    Exchanged α :=
  let asked := exchange (http.backend network)
  ⟨asked.requests.flatMap fun request => (http.deliver network request).requests, asked.result⟩

end HttpClient

end NodeLookup
