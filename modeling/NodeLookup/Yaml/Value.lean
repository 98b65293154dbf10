import NodeLookup.Yaml.Node

/-!
# What scalars stand for

A scalar is the text that it holds wherever a text is wanted, whatever else it might be taken for.
Only plain scalars and those with a tag can stand for nothing or for a number.
-/

namespace NodeLookup.Yaml

/-- Whether a plain text stands for nothing. -/
def isNullText (text : String) : Bool := text == "~" || text == "null"

/-- The tag of a kind of scalar that every reader knows. -/
def knownTag (suffix : String) : Tag := ⟨"!!", suffix⟩

/-- A node where one may be missing: nothing for a null, and no result for a node that is called null
and is none. -/
def Node.present? : Node → Option (Option Node)
  | .scalar .plain none text => some (if isNullText text then none else some (.scalar .plain none text))
  | .scalar .plain (some tag) text =>
    if tag = knownTag "null" then (if isNullText text then some none else none)
    else some (some (.scalar .plain (some tag) text))
  | node => some (some node)

/-- The text that a node holds. -/
def Node.text? : Node → Option String
  | .scalar _ _ text => some text
  | _ => none

/-- The number that digits of a base spell after an optional plus sign. -/
def unsigned? (base : Nat) : List Char → Option Nat
  | [] => none
  | ['+'] => none
  | '+' :: digits => Text.numberOf? base digits
  | digits => Text.numberOf? base digits

/-- Whether a text is a number with zeros before it, which is not read as one. -/
def isPadded (text : List Char) : Bool :=
  let digits := match text with
    | '+' :: rest => rest
    | '-' :: rest => rest
    | rest => rest
  1 < digits.length && digits.head? == some '0' && digits.all Text.isDigit

/-- The number that a plain text spells: decimal, or by its prefix hexadecimal, octal or binary, after
an optional plus sign. Below zero only zero itself counts. -/
def plainNatural? (text : List Char) : Option Nat :=
  let unsignedText := match text with
    | '+' :: rest => rest
    | rest => rest
  match unsignedText with
  | '0' :: 'x' :: digits => unsigned? 16 digits
  | '0' :: 'o' :: digits => unsigned? 8 digits
  | '0' :: 'b' :: digits => unsigned? 2 digits
  | '-' :: '0' :: mark :: digits =>
    if text.head? = some '-' ∧ ['x', 'o', 'b'].contains mark ∧ !digits.isEmpty ∧ digits.all (· == '0')
    then some 0 else none
  | ['-', '0'] => if text.head? = some '-' then some 0 else none
  | digits => if isPadded text then none else unsigned? 10 digits

/-- The greatest number below zero that a scalar called a number can hold, as a magnitude, and one more
than the greatest above. -/
def signedBound : Nat := 0x8000000000000000

/-- The number that the text of a scalar called a number spells: decimal after an optional sign. -/
def taggedNatural? (text : List Char) : Option Nat :=
  match text with
  | ['-'] => none
  | '-' :: digits => (Text.numberOf? 10 digits).filter (· == 0)
  | digits => (unsigned? 10 digits).filter (· < signedBound)

/-- The greatest number that is read. -/
def greatestNatural : Nat := 0xFFFFFFFFFFFFFFFF

/-- The number that a node stands for. -/
def Node.natural? : Node → Option Nat
  | .scalar .plain none text => (plainNatural? text.toList).filter (· ≤ greatestNatural)
  | .scalar _ (some tag) text => if tag = knownTag "int" then taggedNatural? text.toList else none
  | _ => none

end NodeLookup.Yaml
