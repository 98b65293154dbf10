import NodeLookup.Url
import NodeLookup.Url.Encoding

/-!
# Query pairs

The form in which a query holds pairs of a name and a value: `=` within a pair, `&` between pairs,
`+` for a space, and everything else but letters, digits and four marks percent-encoded.
-/

namespace NodeLookup.Url

/-- Whether a character stands for itself in a pair. -/
def isFormPlain (char : Char) : Bool :=
  ('a' ≤ char && char ≤ 'z') || ('A' ≤ char && char ≤ 'Z') || ('0' ≤ char && char ≤ '9') ||
    ['*', '-', '.', '_'].contains char

/-- The written form of a character in a pair. -/
def formChar (char : Char) : List Char :=
  if char = ' ' then ['+']
  else if isFormPlain char then [char]
  else (String.utf8EncodeChar char).flatMap percentByte

/-- The written form of a text in a pair. -/
def formEncode (text : List Char) : List Char := text.flatMap formChar

/-- The text that a written form stands for. -/
def formDecode (written : List Char) : List Char :=
  Text.decodeLenient
    (percentDecode ((Text.encode written).map fun byte => if byte = 0x2B then 0x20 else byte))

/-- The pair that a part of a query stands for. Without a `=` its value is empty. -/
def pairOf (part : List Char) : List Char × List Char :=
  (formDecode (part.takeWhile (· != '=')), formDecode ((part.dropWhile (· != '=')).drop 1))

/-- The pairs that a query stands for. Empty parts stand for none. -/
def pairsOf (query : List Char) : List (List Char × List Char) :=
  ((query.splitOn '&').filter (!·.isEmpty)).map pairOf

/-- The pairs of the query of a URL. -/
def pairs (url : Url) : List (List Char × List Char) := pairsOf (url.query.getD [])

/-- A query with a pair appended. -/
def appendPairTo (query : Option (List Char)) (name value : List Char) : List Char :=
  let pair := formEncode name ++ '=' :: formEncode value
  match query with
  | none => pair
  | some [] => pair
  | some query => query ++ '&' :: pair

/-- A URL with a pair appended to its query. -/
def appendPair (url : Url) (name value : List Char) : Url :=
  { url with query := some (appendPairTo url.query name value) }

end NodeLookup.Url
