import NodeLookup.Text.Bytes
import NodeLookup.Url

/-!
# Exchanges

One request and what becomes of it. The program gives a request to the HTTP client, which hands back
an answer or none; a backend is all that lies behind that, as a function from requests to deliveries.
What a caller learns is the delivery.
-/

namespace NodeLookup

/-- A request to read what a URL names, with its headers by name in lower case. -/
structure Request where
  url : Url
  headers : List (String × String)
deriving DecidableEq, Repr, Inhabited

namespace Request

/-- The method of every request. -/
def method : String := "GET"

/-- The value of a header. -/
def header? (request : Request) (name : String) : Option String :=
  (request.headers.find? fun header => header.1 == name).map (·.2)

/-- Whether a text can be the value of a header: it holds no control character but tabs. -/
def isHeaderValue (value : String) : Bool :=
  value.toList.all fun char => char == '\t' || (0x20 ≤ char.toNat && char.toNat != 0x7F)

/-- Whether a request can be given to the HTTP client. -/
def isSendable (request : Request) : Bool :=
  request.headers.all fun header => isHeaderValue header.2

end Request

/-- An answer as the HTTP client hands it over. -/
structure Response where
  status : Nat
  body : List UInt8
  /-- How the body is read if no byte order mark says so. -/
  read : List UInt8 → List Char := Text.decodeLenient
deriving Inhabited

namespace Response

/-- Whether the status says that the request was granted. -/
def isSuccess (response : Response) : Bool := 200 ≤ response.status && response.status ≤ 299

/-- Whether the status excludes a body. -/
def isBodiless (response : Response) : Bool := response.status == 204 || response.status == 304

/-- The text of the body. -/
def text (response : Response) : String :=
  if response.isBodiless then ""
  else String.ofList (Text.decodeMarked response.read response.body)

end Response

/-- What becomes of a request: it never arrives, it arrives without an answer being handed over, or it
is answered. -/
inductive Delivery where
  | unreachable
  | unanswered
  | answered (response : Response)
deriving Inhabited

/-- Whether the request has arrived. -/
def Delivery.isReceived : Delivery → Bool
  | unreachable => false
  | unanswered => true
  | answered _ => true

/-- What becomes of each request that is given to the HTTP client. -/
abbrev Backend := Request → Delivery

/-- A result together with the requests that arrived on the way to it, in order. -/
structure Exchanged (α : Type) where
  requests : List Request
  result : α
deriving Repr, Inhabited

namespace Exchanged

/-- A result for which nothing was asked. -/
def silent {α : Type} (result : α) : Exchanged α := ⟨[], result⟩

/-- Applies a function to the result. -/
def map {α β : Type} (change : α → β) (exchanged : Exchanged α) : Exchanged β :=
  ⟨exchanged.requests, change exchanged.result⟩

/-- An exchange that comes after a request. -/
def after {α : Type} (request : Request) (exchanged : Exchanged α) : Exchanged α :=
  ⟨request :: exchanged.requests, exchanged.result⟩

@[simp] theorem requests_silent {α : Type} (result : α) : (silent result).requests = [] := rfl

@[simp] theorem result_silent {α : Type} (result : α) : (silent result).result = result := rfl

@[simp] theorem requests_map {α β : Type} (change : α → β) (exchanged : Exchanged α) :
    (exchanged.map change).requests = exchanged.requests := rfl

@[simp] theorem result_map {α β : Type} (change : α → β) (exchanged : Exchanged α) :
    (exchanged.map change).result = change exchanged.result := rfl

@[simp] theorem requests_after {α : Type} (request : Request) (exchanged : Exchanged α) :
    (exchanged.after request).requests = request :: exchanged.requests := rfl

@[simp] theorem result_after {α : Type} (request : Request) (exchanged : Exchanged α) :
    (exchanged.after request).result = exchanged.result := rfl

end Exchanged

end NodeLookup
