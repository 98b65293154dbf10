import NodeLookup.Url
import NodeLookup.Url.Encoding

/-!
# Path segments

How a path is put together from segments: those of a URL that is read, where a segment of one dot
stands for its own place and one of two dots takes the segment before it away, unless that is the name
of a drive, and those that are appended to a URL, which are encoded first and so can hold anything.
-/

namespace NodeLookup.Url

/-- Whether a segment stands for its own place. -/
def isSingleDot (segment : List Char) : Bool :=
  ["." , "%2e", "%2E"].contains (String.ofList segment)

/-- Whether a segment takes the one before it away. -/
def isDoubleDot (segment : List Char) : Bool :=
  ["..", ".%2e", ".%2E", "%2e.", "%2E.", "%2e%2e", "%2e%2E", "%2E%2e", "%2E%2E"].contains
    (String.ofList segment)

/-- Whether a character is an ASCII letter. -/
def isLetter (char : Char) : Bool :=
  ('a' ≤ char && char ≤ 'z') || ('A' ≤ char && char ≤ 'Z')

/-- Whether a text names a drive. -/
def isDrive (text : List Char) : Bool :=
  match text with
  | [letter, mark] => isLetter letter && (mark == ':' || mark == '|')
  | _ => false

/-- Takes the last segment away, unless it names a drive. -/
def shorten (segments : List (List Char)) : List (List Char) :=
  if segments.getLast?.any isDrive then segments else segments.dropLast

/-- The path that written segments make, on top of those done. A dot segment at the end leaves an
empty segment in its place. -/
def resolveSegments (done : List (List Char)) : List (List Char) → List (List Char)
  | [] => done
  | [segment] =>
    if isDoubleDot segment then shorten done ++ [[]]
    else if isSingleDot segment then done ++ [[]]
    else done ++ [segment]
  | segment :: next :: rest =>
    if isDoubleDot segment then resolveSegments (shorten done) (next :: rest)
    else if isSingleDot segment then resolveSegments done (next :: rest)
    else resolveSegments (done ++ [segment]) (next :: rest)

/-- Whether a character is left out of a URL wherever it stands. -/
def isIgnored (char : Char) : Bool := char == '\t' || char == '\n' || char == '\r'

/-- Takes an empty last segment away, unless it is the only one. -/
def popEmpty (segments : List (List Char)) : List (List Char) :=
  if 2 ≤ segments.length ∧ segments.getLast? = some [] then segments.dropLast else segments

/-- The written form of a segment to append. -/
def writtenSegment (special : Bool) (segment : List Char) : List Char :=
  percentEncode (segmentSet special) (segment.filter fun char => !isIgnored char)

/-- What is left to append to: a path of one empty segment is as good as none. -/
def appendBase (segments : List (List Char)) : List (List Char) :=
  if segments = [[]] then [] else segments

/-- Appends a segment to a path. A segment of one or two dots is passed over; what becomes one only
when ignored characters are left out acts as one. -/
def appendSegment (special : Bool) (segments : List (List Char)) (segment : List Char) :
    List (List Char) :=
  if segment = ['.'] ∨ segment = ['.', '.'] then segments
  else
    let written := writtenSegment special segment
    let base := appendBase segments
    if written = ['.', '.'] then shorten base ++ [[]]
    else if written = ['.'] then base ++ [[]]
    else base ++ [written]

/-- Appends segments one after the other, after taking an empty last one away. -/
def appendSegments (special : Bool) (segments : List (List Char)) (added : List (List Char)) :
    List (List Char) :=
  added.foldl (appendSegment special) (popEmpty segments)

/-- A URL with segments appended to its path. A path without segments stays as it is. -/
def extend (url : Url) (added : List (List Char)) : Url :=
  match url.path with
  | .plain _ => url
  | .segments segments =>
    { url with path := .segments (appendSegments (isSpecial url.scheme) segments added) }

end NodeLookup.Url
