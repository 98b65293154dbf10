/-!
# URLs

A URL in its parts. Every part but a host is held as it is written, with all encoding done, so that
writing a URL only joins its parts.
-/

namespace NodeLookup

namespace Url

/-- The host of a URL. -/
inductive Host where
  /-- A name, or for a scheme without rules of its own any text; it may be empty there. -/
  | name (text : List Char)
  | ipv4 (address : Nat)
  | ipv6 (groups : List Nat)
deriving DecidableEq, Repr, Inhabited

/-- Who and where the URL asks. -/
structure Authority where
  user : List Char := []
  password : List Char := []
  host : Host
  /-- The port, when it is not the one that the scheme implies. -/
  port : Option Nat := none
deriving DecidableEq, Repr, Inhabited

/-- The path of a URL. -/
inductive Path where
  | plain (text : List Char)
  | segments (segments : List (List Char))
deriving DecidableEq, Repr, Inhabited

end Url

/-- A URL. -/
structure Url where
  scheme : List Char
  authority : Option Url.Authority
  path : Url.Path
  query : Option (List Char) := none
  fragment : Option (List Char) := none
deriving DecidableEq, Repr, Inhabited

namespace Url

/-- The schemes with rules of their own for hosts and paths, other than that of files. -/
def hostSchemes : List String := ["http", "https", "ws", "wss", "ftp"]

/-- The port that a scheme implies. -/
def impliedPort? (scheme : String) : Option Nat :=
  match scheme with
  | "http" => some 80
  | "ws" => some 80
  | "https" => some 443
  | "wss" => some 443
  | "ftp" => some 21
  | _ => none

/-- Whether the URL can be extended by path segments. -/
def isBase (url : Url) : Bool :=
  match url.path with
  | .plain _ => false
  | .segments _ => true

/-- Whether a backslash is as good as a slash in URLs of the scheme. -/
def isSpecial (scheme : List Char) : Bool :=
  hostSchemes.contains (String.ofList scheme) || String.ofList scheme == "file"

/-- The hexadecimal digits of an address group, in lower case and without leading zeros. -/
def groupDigits (group : Nat) : List Char := Nat.toDigits 16 group

/-- The four numbers of an address. -/
def ipv4Text (address : Nat) : List Char :=
  Nat.toDigits 10 (address / 0x1000000 % 0x100) ++ '.' ::
    (Nat.toDigits 10 (address / 0x10000 % 0x100) ++ '.' ::
      (Nat.toDigits 10 (address / 0x100 % 0x100) ++ '.' :: Nat.toDigits 10 (address % 0x100)))

/-- How many zero groups an address starts with. -/
def zeroRun (groups : List Nat) : Nat := (groups.takeWhile (· == 0)).length

/-- The start and the length of the longest run of zero groups, of equals the first. -/
def longestZeroRun : (index : Nat) → List Nat → Nat × Nat
  | _, [] => (0, 0)
  | index, group :: groups =>
    let here := zeroRun (group :: groups)
    let later := longestZeroRun (index + 1) groups
    if later.2 ≤ here then (index, here) else later

/-- Groups with colons between them. -/
def joinGroups (groups : List Nat) : List Char :=
  [':'].intercalate (groups.map groupDigits)

/-- The text of an address of eight groups; its longest run of at least two zero groups is left
out. -/
def ipv6Text (groups : List Nat) : List Char :=
  let (start, length) := longestZeroRun 0 groups
  if length < 2 then joinGroups groups
  else joinGroups (groups.take start) ++ ':' :: ':' :: joinGroups (groups.drop (start + length))

/-- The text of a host. -/
def Host.render : Host → List Char
  | name text => text
  | ipv4 address => ipv4Text address
  | ipv6 groups => '[' :: ipv6Text groups ++ [']']

/-- The text of user name and password, with the sign that ends it. -/
def Authority.renderUser (authority : Authority) : List Char :=
  match authority.user, authority.password with
  | [], [] => []
  | user, [] => user ++ ['@']
  | user, password => user ++ ':' :: password ++ ['@']

/-- The text of host and port. -/
def Authority.renderHost (authority : Authority) : List Char :=
  authority.host.render ++
    match authority.port with
    | none => []
    | some port => ':' :: Nat.toDigits 10 port

/-- The text of a path. -/
def Path.render : Path → List Char
  | plain text => text
  | segments list => list.flatMap fun segment => '/' :: segment

/-- The text of a query, with its question mark. -/
def renderQuery (url : Url) : List Char :=
  match url.query with
  | none => []
  | some query => '?' :: query

/-- The text of a fragment, with its number sign. -/
def renderFragment (url : Url) : List Char :=
  match url.fragment with
  | none => []
  | some fragment => '#' :: fragment

/-- The text of what follows the scheme up to the path, by a way to write authorities. -/
def renderAuthority (url : Url) (render : Authority → List Char) : List Char :=
  match url.authority with
  | none => []
  | some authority => '/' :: '/' :: render authority

/-- What keeps a path from being read as an authority, in a URL that has none: a segment that changes
nothing, in front of a first segment that is empty. -/
def renderGuard (url : Url) : List Char :=
  match url.authority, url.path with
  | none, .segments ([] :: _ :: _) => ['/', '.']
  | _, _ => []

/-- The whole text of a URL. -/
def render (url : Url) : List Char :=
  url.scheme ++ ':' ::
    (url.renderAuthority (fun authority => authority.renderUser ++ authority.renderHost) ++
      url.renderGuard ++ url.path.render ++ url.renderQuery ++ url.renderFragment)

/-- The text of what a request asks for: user name, password and fragment are not part of it. -/
def renderTarget (url : Url) : List Char :=
  url.scheme ++ ':' ::
    (url.renderAuthority Authority.renderHost ++ url.renderGuard ++ url.path.render ++
      url.renderQuery)

end Url

end NodeLookup
