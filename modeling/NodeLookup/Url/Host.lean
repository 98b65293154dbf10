import NodeLookup.Text.Digits
import NodeLookup.Url
import NodeLookup.Url.Encoding

/-!
# Hosts

The host of a URL is an address in brackets, a name, or a name that spells an address of four bytes.
Names are made of ASCII here; a name that is anything else once its percent signs are decoded is not
valid.
-/

namespace NodeLookup.Url

open Text (hexValue? isDigit numberOf?)

/-- Why a text is no URL. -/
inductive Flaw where
  | emptyHost
  | invalidName
  | invalidIpv4
  | invalidIpv6
  | invalidCharacter
  | invalidPort
  | noScheme
deriving DecidableEq, Repr, Inhabited

/-- The words of a message for a flaw. -/
def Flaw.describe : Flaw → String
  | emptyHost => "empty host"
  | invalidName => "invalid international domain name"
  | invalidIpv4 => "invalid IPv4 address"
  | invalidIpv6 => "invalid IPv6 address"
  | invalidCharacter => "invalid domain character"
  | invalidPort => "invalid port number"
  | noScheme => "relative URL without a base"

/-- The lower-case form of an ASCII letter. -/
def lowerChar (char : Char) : Char :=
  if 'A' ≤ char ∧ char ≤ 'Z' then Char.ofNat (char.toNat + 32) else char

/-- Whether a character cannot occur in a name. -/
def isForbidden (char : Char) : Bool :=
  char.toNat ≤ 0x20 || char.toNat == 0x7F ||
    ['#', '%', '/', ':', '<', '>', '?', '@', '[', '\\', ']', '^', '|'].contains char

/-- The name that a text spells: percent signs decoded, letters in lower case. -/
def nameOf (text : List Char) : Except Flaw (List Char) :=
  match Text.decode? (percentDecode (Text.encode text)) with
  | none => .error .invalidName
  | some name =>
    if name.any fun char => isForbidden char || 0x7F < char.toNat then .error .invalidName
    else .ok (name.map lowerChar)

/-- The parts of a text between the dots. -/
def dotParts (text : List Char) : List (List Char) := text.splitOn '.'

/-- The number that a part of an address spells: hexadecimal after `0x`, octal after `0`. -/
def ipv4Number? : List Char → Option Nat
  | [] => none
  | '0' :: 'x' :: digits => numberOf? 16 digits
  | '0' :: 'X' :: digits => numberOf? 16 digits
  | '0' :: digit :: digits => numberOf? 8 (digit :: digits)
  | digits => numberOf? 10 digits

/-- The parts of a name, without an empty last one. -/
def addressParts (name : List Char) : List (List Char) :=
  let parts := dotParts name
  if parts.getLast? = some [] then parts.dropLast else parts

/-- Whether the last part of a name is a number, so that the name has to be an address. -/
def endsInNumber (name : List Char) : Bool :=
  match (addressParts name).getLast? with
  | none => false
  | some part => (!part.isEmpty && part.all isDigit) || (ipv4Number? part).isSome

/-- The address that numbers spell: one byte each, and the last one all the bytes that are left. -/
def ipv4OfNumbers? (numbers : List Nat) : Option Nat :=
  match numbers.getLast? with
  | none => none
  | some last =>
    let leading := numbers.dropLast
    if 3 < leading.length || leading.any (255 < ·) || Nat.pow 256 (4 - leading.length) ≤ last then none
    else
      let shifted := leading.foldl (fun value number => value * 256 + number) 0
      some (shifted * Nat.pow 256 (4 - leading.length) + last)

/-- The address that a name spells. -/
def ipv4Of (name : List Char) : Except Flaw Nat :=
  match ((addressParts name).mapM ipv4Number?).bind ipv4OfNumbers? with
  | some address => .ok address
  | none => .error .invalidIpv4

/-- The number that up to four hexadecimal digits at the start of a text spell, and what follows
them. -/
def groupAt (text : List Char) : Option (Nat × List Char) :=
  let digits := (text.take 4).takeWhile fun char => (hexValue? char).isSome
  match digits with
  | [] => none
  | digits => (numberOf? 16 digits).map fun value => (value, text.drop digits.length)

/-- The byte that decimal digits without a leading zero spell. -/
def byteOf? (digits : List Char) : Option Nat :=
  if digits.isEmpty || 3 < digits.length || (digits.head? == some '0' && 1 < digits.length) then none
  else ((numberOf? 10 digits).filter (· ≤ 255))

/-- The two groups that an address of four bytes at the end of an address of groups stands for. -/
def tailGroups? (text : List Char) : Option (List Nat) :=
  match (dotParts text).mapM byteOf? with
  | some [a, b, c, d] => some [a * 256 + b, c * 256 + d]
  | _ => none

/-- The groups that a text spells, with single colons between them, in at most `limit` steps. -/
def groupsOf? : (limit : Nat) → List Char → Option (List Nat)
  | 0, _ => none
  | limit + 1, text =>
    if text.contains '.' && !text.contains ':' then tailGroups? text
    else
      match groupAt text with
      | none => none
      | some (group, []) => some [group]
      | some (group, ':' :: rest) => (groupsOf? limit rest).map (group :: ·)
      | some _ => none

/-- The text before and after the first pair of colons. -/
def splitAtGap : List Char → Option (List Char × List Char)
  | [] => none
  | ':' :: ':' :: rest => some ([], rest)
  | char :: rest => (splitAtGap rest).map fun parts => (char :: parts.1, parts.2)

/-- The groups that one side of a pair of colons spells. -/
def sideGroups? (text : List Char) : Option (List Nat) :=
  if text.isEmpty then some [] else groupsOf? (text.length + 1) text

/-- The eight groups that a text between brackets spells. A pair of colons stands for at least one
zero group; only the last two groups may be written as four bytes. -/
def ipv6Of (text : List Char) : Except Flaw (List Nat) :=
  match splitAtGap text with
  | none =>
    match sideGroups? text with
    | some groups => if groups.length = 8 then .ok groups else .error .invalidIpv6
    | none => .error .invalidIpv6
  | some (before, after) =>
    match if before.contains '.' then none else sideGroups? before, sideGroups? after with
    | some left, some right =>
      if left.length + right.length ≤ 7 then
        .ok (left ++ List.replicate (8 - (left.length + right.length)) 0 ++ right)
      else .error .invalidIpv6
    | _, _ => .error .invalidIpv6

/-- The address between the brackets that a text starts with. -/
def bracketed (text : List Char) : Except Flaw Host :=
  if text.getLast? = some ']' then (ipv6Of text.dropLast).map .ipv6 else .error .invalidIpv6

/-- The host that a text stands for in a URL with rules of its own. -/
def hostOf : List Char → Except Flaw Host
  | '[' :: rest => bracketed rest
  | text => do
    let name ← nameOf text
    if name.isEmpty then .error .emptyHost
    else if endsInNumber name then (ipv4Of name).map .ipv4
    else .ok (.name name)

/-- Whether a character cannot occur in the host of a URL without rules of its own. -/
def isForbiddenPlain (char : Char) : Bool :=
  ['\x00', '\t', '\n', '\r', ' ', '#', '/', ':', '<', '>', '?', '@', '[', '\\', ']', '^', '|'].contains
    char

/-- The host that a text stands for in a URL without rules of its own. -/
def plainHostOf : List Char → Except Flaw Host
  | '[' :: rest => bracketed rest
  | text =>
    if text.any isForbiddenPlain then .error .invalidCharacter
    else .ok (.name (percentEncode controlSet text))

end NodeLookup.Url
