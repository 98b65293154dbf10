import NodeLookup.Exchange.Http
import NodeLookup.Text.Digits
import NodeLookup.Url.Parse

/-!
# Exchanges on the wire

The bytes of a request, and what the bytes that come back mean. A connection carries one exchange, so
an answer that does not say how long it is ends with its connection; one that does say so and is cut
short is without its body.
-/

namespace NodeLookup

/-- The port of a host that names none. -/
def defaultPort : Nat := 80

/-- The end of a line on the wire. -/
def lineEnd : List Char := ['\r', '\n']

/-- The line of a header. -/
def headerLine (header : String × String) : List Char :=
  header.1.toList ++ ':' :: ' ' :: header.2.toList ++ lineEnd

namespace Request

/-- The port that a request goes to. -/
def port (request : Request) : Nat := (request.url.authority.bind (·.port)).getD defaultPort

/-- The host and the port that a request names as its own. -/
def hostText (request : Request) : String :=
  match request.url.authority with
  | none => ""
  | some authority => String.ofList authority.renderHost

/-- The headers that belong to the connection of a request. -/
def connectionHeaders (request : Request) : List (String × String) :=
  [("host", request.hostText), ("connection", "close")]

/-- The bytes of a request. -/
def wire (request : Request) : List UInt8 :=
  Text.encode (Request.method.toList ++ ' ' :: request.url.path.render ++ request.url.renderQuery ++
    " HTTP/1.1".toList ++ lineEnd ++
    (request.headers ++ request.connectionHeaders).flatMap headerLine ++ lineEnd)

end Request

namespace Answer

/-- The first line of some bytes, without its end, and the bytes after it. -/
def firstLine : List UInt8 → Option (List Char × List UInt8)
  | [] => none
  | byte :: rest =>
    match Char.ofNat byte.toNat with
    | '\n' => some ([], rest)
    | '\r' => firstLine rest
    | char => (firstLine rest).map fun (line, rest) => (char :: line, rest)

/-- The status in the first line of an answer. -/
def statusOf? (line : List Char) : Option Nat :=
  if ['H', 'T', 'T', 'P', '/'].isPrefixOf line then
    let digits := ((line.dropWhile (· != ' ')).drop 1).takeWhile Text.isDigit
    if digits.length = 3 then Text.numberOf? 10 digits else none
  else none

/-- A header from its line. The case of its name does not count. -/
def headerOf (line : List Char) : String × List UInt8 :=
  let value := ((line.dropWhile (· != ':')).drop 1).dropWhile (· == ' ')
  (String.ofList ((line.takeWhile (· != ':')).map Char.toLower),
    value.map fun char => UInt8.ofNat char.toNat)

/-- Reads header lines up to the empty one, at most `limit` of them. -/
def readHeaders : (limit : Nat) → List UInt8 → Option (List (String × List UInt8) × List UInt8)
  | 0, _ => none
  | limit + 1, bytes => do
    let (line, rest) ← firstLine bytes
    if line.isEmpty then some ([], rest)
    else
      let (headers, rest) ← readHeaders limit rest
      some (headerOf line :: headers, rest)

/-- Reads a body that comes in pieces, each behind its length in hexadecimal digits, in at most `limit`
of them. An empty piece is the last. -/
def readPieces : (limit : Nat) → List UInt8 → Option (List UInt8)
  | 0, _ => none
  | limit + 1, bytes => do
    let (line, rest) ← firstLine bytes
    let digits := line.takeWhile fun char => (Text.hexValue? char).isSome
    let length ← if digits.isEmpty then none else Text.numberOf? 16 digits
    if length = 0 then some []
    else if rest.length < length then none
    else
      let (gap, after) ← firstLine (rest.drop length)
      if gap.isEmpty then (readPieces limit after).map (rest.take length ++ ·) else none

/-- Reads a body as the headers before it say. -/
def readBody (answer : Answer) (bytes : List UInt8) : Option (List UInt8) :=
  if answer.header? "transfer-encoding" = some (Text.encode "chunked".toList) then
    readPieces (bytes.length + 1) bytes
  else
    match answer.header? "content-length" with
    | none => some bytes
    | some text => do
      let length ← (Text.decode? text).bind (Text.numberOf? 10)
      if bytes.length < length then none else some (bytes.take length)

/-- The answer that the bytes of a connection are, if they hold all that comes before its body. -/
def ofWire? (bytes : List UInt8) : Option Answer := do
  let (line, rest) ← firstLine bytes
  let status ← statusOf? line
  let (headers, rest) ← readHeaders (rest.length + 1) rest
  let answer : Answer := { status, headers }
  if status = 204 ∨ status = 304 then some answer
  else some { answer with body := readBody answer rest }

end Answer

/-- What became of a request on whose connection some bytes came back. -/
def Arrival.ofWire (bytes : List UInt8) : Arrival :=
  match Answer.ofWire? bytes with
  | none => .unanswered
  | some answer => .answered answer

namespace HttpClient

/-- The charset that a content type names, in lower case. -/
def charsetName? (contentType : List Char) : Option (List Char) :=
  (contentType.splitOn ';').tail.findSome? fun parameter =>
    let written := (parameter.filter fun char => char != ' ' && char != '\t' && char != '"').map
      Char.toLower
    if "charset=".toList.isPrefixOf written then some (written.drop 8) else none

/-- The reader for a charset of the Unicode family. -/
def unicode? (contentType : List UInt8) : Option (List UInt8 → List Char) := do
  let name ← (Text.decode? contentType).bind charsetName?
  match String.ofList name with
  | "utf-8" => some Text.decodeLenient
  | "utf-16" => some (Text.decodeUtf16 .little)
  | "utf-16le" => some (Text.decodeUtf16 .little)
  | "utf-16be" => some (Text.decodeUtf16 .big)
  | _ => none

/-- The HTTP client of a program that speaks plain HTTP. -/
def plain : HttpClient where
  schemes := ["http".toList]
  limit := 10
  locate := Url.join
  charset? := unicode?

end HttpClient

end NodeLookup
