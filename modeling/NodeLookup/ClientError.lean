import NodeLookup.ServiceError
import NodeLookup.Url.Host

/-!
# Client errors

Why a question to the cloud got no answer that could be used.
-/

namespace NodeLookup

/-- Why a question to the cloud failed. -/
inductive ClientError where
  | transport
  | api (status : Nat) (body : String)
  | undecodable (url : String) (failure : Json.Failure)
  | invalidUrl (flaw : Url.Flaw)
  | invalidConfig (reason : String)
deriving DecidableEq, Repr, Inhabited

namespace ClientError

/-- The words of a message for a client error. Those for a missing answer leave out its cause. -/
def describe : ClientError → String
  | transport => "ECS request failed"
  | api status body => "ECS API returned " ++ toString status ++ ": " ++ body
  | undecodable url failure =>
    "failed to decode ECS response from " ++ url ++ ": " ++ failure.message
  | invalidUrl flaw => "invalid ECS URL: " ++ flaw.describe
  | invalidConfig reason => "invalid ECS client configuration: " ++ reason

/-- The service error that a refusal carries. -/
def serviceError? : ClientError → Option ServiceError
  | api status body => (ServiceError.ofBody? body).map fun error => { error with status }
  | _ => none

/-- The code of the service error for a server that does not exist. -/
def nonExistentCode : String := "Ecs.0114"

/-- Whether the error says that the server does not exist. -/
def isNonExistent (error : ClientError) : Bool :=
  match error.serviceError? with
  | some error => error.code == nonExistentCode
  | none => false

end ClientError

end NodeLookup
