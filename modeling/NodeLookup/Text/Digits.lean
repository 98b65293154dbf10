/-!
# Digits

Digits and the numbers that they spell, in the bases up to sixteen, and the bytes that are written in
base 64.
-/

namespace NodeLookup.Text

/-- The digit of a value below sixteen, in lower case. -/
def hexDigit (value : Nat) : Char :=
  if value < 10 then Char.ofNat (48 + value) else Char.ofNat (87 + value)

/-- The lower-case hexadecimal digits of a number, without leading zeros. -/
def hexDigits (value : Nat) : List Char :=
  if value < 16 then [hexDigit value] else hexDigits (value / 16) ++ [hexDigit (value % 16)]

/-- The value of a hexadecimal digit. -/
def hexValue? (char : Char) : Option Nat :=
  if '0' ≤ char ∧ char ≤ '9' then some (char.toNat - 48)
  else if 'a' ≤ char ∧ char ≤ 'f' then some (char.toNat - 87)
  else if 'A' ≤ char ∧ char ≤ 'F' then some (char.toNat - 55)
  else none

/-- Whether a character is a decimal digit. -/
def isDigit (char : Char) : Bool := '0' ≤ char && char ≤ '9'

/-- The value of a decimal digit. -/
def digitValue (char : Char) : Nat := char.toNat - 48

/-- The number that digits of a base spell, if they are digits of it. -/
def numberOf? (base : Nat) (digits : List Char) : Option Nat :=
  digits.foldlM (fun value char =>
    match hexValue? char with
    | some digit => if digit < base then some (value * base + digit) else none
    | none => none) 0

/-! ## Base 64

Bytes as printable characters, six bits to each, filled up with `=` to groups of four. -/

/-- The character of a value below sixty-four. -/
def base64Digit (value : Nat) : Char :=
  if value < 26 then Char.ofNat (65 + value)
  else if value < 52 then Char.ofNat (97 + (value - 26))
  else if value < 62 then Char.ofNat (48 + (value - 52))
  else if value = 62 then '+'
  else '/'

/-- The characters of a run of bytes. -/
def base64 : List UInt8 → List Char
  | [] => []
  | [first] =>
    let bits := first.toNat
    [base64Digit (bits / 4), base64Digit (bits % 4 * 16), '=', '=']
  | [first, second] =>
    let bits := first.toNat * 256 + second.toNat
    [base64Digit (bits / 1024), base64Digit (bits / 16 % 64), base64Digit (bits % 16 * 4), '=']
  | first :: second :: third :: rest =>
    let bits := (first.toNat * 256 + second.toNat) * 256 + third.toNat
    base64Digit (bits / 262144) :: base64Digit (bits / 4096 % 64) :: base64Digit (bits / 64 % 64) ::
      base64Digit (bits % 64) :: base64 rest

end NodeLookup.Text
