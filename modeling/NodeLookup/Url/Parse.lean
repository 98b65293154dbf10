import NodeLookup.Url.Host
import NodeLookup.Url.Segments

/-!
# Reading URLs

The parts of a URL are found from left to right: the scheme up to the first colon, then by the kind
of the scheme an authority and a path, a path alone, or text without structure; a query after the
first question mark; a fragment after the first number sign. A text may also name a URL as seen from
another one, and then leave out the parts that it shares with it.
-/

namespace NodeLookup.Url

open Text (isDigit numberOf?)

/-- Whether a character is a control or a space. -/
def isMargin (char : Char) : Bool := char.toNat ≤ 0x20

/-- A text without controls and spaces at its ends, and without tabs and line ends anywhere. -/
def cleaned (text : List Char) : List Char :=
  let started := text.dropWhile isMargin
  let trimmed := (started.reverse.dropWhile isMargin).reverse
  trimmed.filter fun char => !isIgnored char

/-- Whether a character can stand in a scheme after its first letter. -/
def isSchemeChar (char : Char) : Bool :=
  isLetter char || isDigit char || ['+', '-', '.'].contains char

/-- The scheme of a text, in lower case, and what follows its colon. -/
def splitScheme? (text : List Char) : Option (List Char × List Char) :=
  if text.head?.any isLetter then
    match text.dropWhile isSchemeChar with
    | ':' :: rest => some ((text.takeWhile isSchemeChar).map lowerChar, rest)
    | _ => none
  else none

/-- Whether a character ends an authority. -/
def endsAuthority (special : Bool) (char : Char) : Bool :=
  ['/', '?', '#'].contains char || (special && char == '\\')

/-- Whether a character ends a path. -/
def endsPath (char : Char) : Bool := char == '?' || char == '#'

/-- The query and the fragment that follow a path. -/
def tailParts (special : Bool) (text : List Char) : Option (List Char) × Option (List Char) :=
  let fragmentOf : List Char → Option (List Char)
    | '#' :: rest => some (percentEncode fragmentSet rest)
    | _ => none
  match text with
  | '?' :: rest =>
    (some (percentEncode (querySet special) (rest.takeWhile (· != '#'))),
      fragmentOf (rest.dropWhile (· != '#')))
  | text => (none, fragmentOf text)

/-- The segments of a path that is read, after its first slash. -/
def pathSegments (special : Bool) (path : List Char) : List (List Char) :=
  let slashed := if special then path.map fun char => if char = '\\' then '/' else char else path
  resolveSegments [] ((slashed.splitOn '/').map (percentEncode pathSet))

/-- A URL with a path that is read from text after an authority or in its place. -/
def withPath (scheme : List Char) (authority : Option Authority) (text : List Char) : Url :=
  let special := isSpecial scheme
  let path := text.takeWhile fun char => !endsPath char
  let tail := tailParts special (text.dropWhile fun char => !endsPath char)
  let segments := match path with
    | [] => if special then [[]] else []
    | '/' :: rest => pathSegments special rest
    | '\\' :: rest =>
      if special then pathSegments special rest else pathSegments special ('\\' :: rest)
    | rest => pathSegments special rest
  { scheme, authority, path := .segments segments, query := tail.1, fragment := tail.2 }

/-- A URL whose path is text without structure. -/
def withPlainPath (scheme text : List Char) : Url :=
  let tail := tailParts false (text.dropWhile fun char => !endsPath char)
  { scheme, authority := none,
    path := .plain (percentEncode controlSet (text.takeWhile fun char => !endsPath char)),
    query := tail.1, fragment := tail.2 }

/-- The parts of an authority before and after its last at sign. -/
def splitUser (authority : List Char) : Option (List Char) × List Char :=
  match authority.reverse.dropWhile (· != '@') with
  | [] => (none, authority)
  | _ :: user => (some user.reverse, (authority.reverse.takeWhile (· != '@')).reverse)

/-- The host part of a text: up to a colon that is not between brackets. -/
def hostPart (inBrackets : Bool) : List Char → List Char × List Char
  | [] => ([], [])
  | char :: rest =>
    if char = ':' ∧ !inBrackets then ([], char :: rest)
    else
      let parts := hostPart (if char = '[' then true else if char = ']' then false else inBrackets) rest
      (char :: parts.1, parts.2)

/-- The port that digits spell, nothing for none or for the one that the scheme implies. -/
def portOf (scheme digits : List Char) : Except Flaw (Option Nat) :=
  match digits with
  | [] => .ok none
  | digits =>
    match numberOf? 10 digits with
    | none => .error .invalidPort
    | some port =>
      if 0xFFFF < port then .error .invalidPort
      else if impliedPort? (String.ofList scheme) = some port then .ok none
      else .ok (some port)

/-- The user name and the password that the user part of an authority spells. -/
def userOf (user : List Char) : List Char × List Char :=
  (percentEncode userinfoSet (user.takeWhile (· != ':')),
    percentEncode userinfoSet ((user.dropWhile (· != ':')).drop 1))

/-- The authority that a text spells, and what is left of it for the path, which only a port without
rules of its own can leave. A URL with rules of its own needs a host; without such rules only one that
has a user or a port does. `last` tells whether nothing follows the text. -/
def authorityOf (scheme text : List Char) (last : Bool) : Except Flaw (Authority × List Char) := do
  let special := isSpecial scheme
  let (userPart, rest) := splitUser text
  let (user, password) := userOf (userPart.getD [])
  let (hostText, portText) := hostPart false rest
  if userPart = some [] && rest.isEmpty && !last then .error .emptyHost
  else if hostText.isEmpty && special then .error .emptyHost
  else
    let host ← if special then hostOf hostText else plainHostOf hostText
    if hostText.isEmpty && !portText.isEmpty then .error .emptyHost
    else
      let digits := (portText.drop 1).takeWhile (· != '\\')
      let port ← portOf scheme digits
      if hostText.isEmpty && !(user.isEmpty && password.isEmpty) then .error .emptyHost
      else .ok ({ user, password, host, port }, portText.drop (1 + digits.length))

/-- A URL with the authority and the path that a text spells. -/
def withAuthority (scheme text : List Char) : Except Flaw Url := do
  let special := isSpecial scheme
  let rest := text.dropWhile fun char => !endsAuthority special char
  let (authority, left) ←
    authorityOf scheme (text.takeWhile fun char => !endsAuthority special char) rest.isEmpty
  .ok (withPath scheme (some authority) (left ++ rest))

/-- The URL of a file. Its host may be missing, and is if the file is local. -/
def fileUrl (scheme text : List Char) : Except Flaw Url :=
  let slash (char : Char) : Bool := char == '/' || char == '\\'
  match text with
  | first :: second :: rest =>
    if slash first && slash second then
      let hostText := rest.takeWhile fun char => !endsAuthority true char
      let path := rest.dropWhile fun char => !endsAuthority true char
      if hostText.isEmpty then .ok (withPath scheme (some { host := .name [] }) path)
      else if isDrive hostText then .ok (withPath scheme (some { host := .name [] }) rest)
      else do
        let host ← hostOf hostText
        let host := if host = .name ['l', 'o', 'c', 'a', 'l', 'h', 'o', 's', 't'] then .name [] else host
        .ok (withPath scheme (some { host }) path)
    else .ok (withPath scheme (some { host := .name [] }) text)
  | text => .ok (withPath scheme (some { host := .name [] }) text)

/-- Reads a URL. -/
def parse (text : List Char) : Except Flaw Url :=
  match splitScheme? (cleaned text) with
  | none => .error .noScheme
  | some (scheme, rest) =>
    if String.ofList scheme == "file" then fileUrl scheme rest
    else if isSpecial scheme then
      withAuthority scheme (rest.dropWhile fun char => char == '/' || char == '\\')
    else
      match rest with
      | '/' :: '/' :: rest => withAuthority scheme rest
      | '/' :: rest => .ok (withPath scheme none ('/' :: rest))
      | rest => .ok (withPlainPath scheme rest)

/-- Whether a character is as good as a slash in URLs of the scheme. -/
def isSlash (scheme : List Char) (char : Char) : Bool :=
  char == '/' || (isSpecial scheme && char == '\\')

/-- The URL that a text without a scheme names, as seen from a URL whose path has segments. -/
def relative (base : Url) (segments : List (List Char)) (text : List Char) : Option Url :=
  let tail := tailParts (isSpecial base.scheme) text
  match text with
  | [] => some { base with fragment := none }
  | '#' :: _ => some { base with fragment := tail.2 }
  | '?' :: _ => some { base with query := tail.1, fragment := tail.2 }
  | first :: rest =>
    if isSlash base.scheme first then
      if rest.head?.any (isSlash base.scheme) then (parse (base.scheme ++ ':' :: text)).toOption
      else some (withPath base.scheme base.authority text)
    else
      let before := Path.render (.segments segments.dropLast)
      some (withPath base.scheme base.authority (before ++ '/' :: text))

/-- The URL that a text names, as seen from a URL. The scheme of that URL may stand in front of a text
that is relative to it. -/
def join (base : Url) (text : List Char) : Option Url :=
  match base.path, splitScheme? (cleaned text) with
  | .plain _, none => none
  | .segments segments, none => base.relative segments (cleaned text)
  | .plain _, some _ => (parse text).toOption
  | .segments segments, some (scheme, rest) =>
    if scheme = base.scheme ∧ isSpecial scheme ∧ !rest.head?.any (isSlash scheme) then
      base.relative segments rest
    else (parse text).toOption

end NodeLookup.Url
