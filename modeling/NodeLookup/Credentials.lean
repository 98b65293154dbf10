import NodeLookup.Text.Quoted

/-!
# Credentials

Whom a request speaks for: a project, which every request names, and a token, which may be missing.
-/

namespace NodeLookup

/-- How a request proves that it may be made. -/
inductive Authentication where
  | anonymous
  | token (value : String)
deriving DecidableEq, Repr, Inhabited

/-- Whom a request speaks for. Only `Credentials.build` makes one for use, and its project is not
empty. -/
structure Credentials where
  projectId : String
  authentication : Authentication
deriving DecidableEq, Repr, Inhabited

/-- The words of a message for an authentication. A token is never shown. -/
def Authentication.describe : Authentication → String
  | anonymous => "Anonymous"
  | token _ => "Token(<redacted>)"

namespace Credentials

/-- The words of a message for credentials. -/
def describe (credentials : Credentials) : String :=
  "Credentials \x7b project_id: " ++ Text.quoted credentials.projectId ++ ", auth: " ++
    credentials.authentication.describe ++ " \x7d"

/-- Why no credentials can be made: only a project is ever missing. -/
def missingProject : String := "project ID is required"

/-- Credentials for a project and a token. An empty project is a missing one, and an empty token is
none. -/
def build (projectId token : Option String) : Except String Credentials :=
  match projectId.filter (· != "") with
  | none => .error missingProject
  | some projectId =>
    match token.filter (· != "") with
    | none => .ok ⟨projectId, .anonymous⟩
    | some token => .ok ⟨projectId, .token token⟩

end Credentials

end NodeLookup
