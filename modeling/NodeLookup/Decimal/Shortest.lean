import NodeLookup.Decimal.Binary64

/-!
# Shortest decimal digits

The fewest decimal digits that read back as a given double-precision magnitude, and their layout in
a message. A decimal reads back when it lies between the midpoints to the neighbouring magnitudes,
the midpoints themselves counting when the mantissa is even.
-/

namespace NodeLookup.Decimal

/-- The decimal `digits · 10 ^ exponent`. -/
structure Scientific where
  digits : Nat
  exponent : Int
deriving DecidableEq, Repr, Inhabited

namespace Shortest

/-- The interval of the reals that round to a magnitude, in units of a quarter of the spacing above
it: lower end, the value itself, upper end. The spacing below a power of two is half as wide. -/
def interval (value : Binary64) : Nat × Nat × Nat :=
  let middle := 4 * value.mantissa
  let narrow := value.mantissa = Binary64.leastNormal ∧ Binary64.leastExponent < value.exponent
  (if narrow then middle - 1 else middle - 2, middle, middle + 2)

/-- Compares `digits · 10 ^ power` with `quarters · 2 ^ (exponent - 2)`. -/
def compareAt (digits : Nat) (power : Int) (quarters : Nat) (exponent : Int) : Ordering :=
  let tens := Nat.pow 10 power.natAbs
  let twos := Nat.pow 2 (exponent - 2).natAbs
  let left := if 0 ≤ power then digits * tens else digits
  let right := if 0 ≤ power then quarters else quarters * tens
  if 0 ≤ exponent - 2 then compare left (right * twos) else compare (left * twos) right

/-- Whether `digits · 10 ^ power` reads back as the magnitude. -/
def readsBack (value : Binary64) (digits : Nat) (power : Int) : Bool :=
  let (low, _, high) := interval value
  let atLow := compareAt digits power low value.exponent
  let atHigh := compareAt digits power high value.exponent
  if value.mantissa % 2 = 0 then atLow != .lt && atHigh != .gt else atLow == .gt && atHigh == .lt

/-- The whole part of the magnitude divided by `10 ^ power`. -/
def floorAt (value : Binary64) (power : Int) : Nat :=
  let (numerator, denominator) := value.quotient
  if 0 ≤ power then numerator / (denominator * Nat.pow 10 power.toNat)
  else numerator * Nat.pow 10 (-power).toNat / denominator

/-- The number of digits before the decimal point of a quotient of at least one, at most `limit`. -/
def wholeDigits (numerator denominator : Nat) : (limit : Nat) → Nat
  | 0 => 0
  | limit + 1 =>
    if numerator < denominator then 0 else 1 + wholeDigits numerator (denominator * 10) limit

/-- The number of zeros after the decimal point of a quotient below one, at most `limit`. -/
def leadingZeros (numerator denominator : Nat) : (limit : Nat) → Nat
  | 0 => 0
  | limit + 1 =>
    if denominator ≤ numerator * 10 then 0
    else 1 + leadingZeros (numerator * 10) denominator limit

/-- The power of ten just above the magnitude: it is below `10 ^ magnitude` and not below a tenth of
that. -/
def decimalMagnitude (value : Binary64) : Int :=
  let (numerator, denominator) := value.quotient
  if denominator ≤ numerator then wholeDigits numerator denominator 400
  else -(leadingZeros numerator denominator 400 : Nat)

/-- The nearer of the two neighbours of the magnitude on the grid of `10 ^ power` that read back, a
tie going to the even one. -/
def onGrid? (value : Binary64) (power : Int) : Option Nat :=
  let below := floorAt value power
  let above := below + 1
  match readsBack value below power, readsBack value above power with
  | false, false => none
  | true, false => some below
  | false, true => some above
  | true, true =>
    match compareAt (below + above) power (2 * (interval value).2.1) value.exponent with
    | .gt => some below
    | .lt => some above
    | .eq => some (if below % 2 = 0 then below else above)

/-- The first grid with a decimal that reads back, from `count` digits on. -/
def search (value : Binary64) (magnitude : Int) : (count limit : Nat) → Scientific
  | count, 0 => ⟨floorAt value (magnitude - count), magnitude - count⟩
  | count, limit + 1 =>
    match onGrid? value (magnitude - count) with
    | some digits => ⟨digits, magnitude - count⟩
    | none => search value magnitude (count + 1) limit

/-- The shortest decimal that reads back as a positive magnitude. Seventeen digits always do. -/
def decimal (value : Binary64) : Scientific :=
  search value (decimalMagnitude value) 1 17

end Shortest

/-- Removes trailing zeros from the digits of a decimal. -/
def Scientific.trim (limit : Nat) (value : Scientific) : Scientific :=
  match limit with
  | 0 => value
  | limit + 1 =>
    if value.digits ≠ 0 ∧ value.digits % 10 = 0 then
      Scientific.trim limit ⟨value.digits / 10, value.exponent + 1⟩
    else value

/-- The decimal digits of a number, most significant first. -/
def digitsOf (value : Nat) : List Char := Nat.toDigits 10 value

/-- The layout of a decimal: positional from `0.00001` up to sixteen digits before the point, always
with a point; beyond that one digit before the point and a signed exponent. -/
def Scientific.render (value : Scientific) : List Char :=
  let digits := digitsOf value.digits
  let point : Int := digits.length + value.exponent
  if 0 ≤ value.exponent ∧ point ≤ 16 then
    digits ++ List.replicate value.exponent.toNat '0' ++ ['.', '0']
  else if 0 < point ∧ point ≤ 16 then
    digits.take point.toNat ++ '.' :: digits.drop point.toNat
  else if -5 < point ∧ point ≤ 0 then
    '0' :: '.' :: List.replicate (-point).toNat '0' ++ digits
  else
    let exponent := point - 1
    let sign := if exponent < 0 then '-' else '+'
    let fraction := match digits.drop 1 with
      | [] => []
      | more => '.' :: more
    digits.take 1 ++ fraction ++ 'e' :: sign :: digitsOf exponent.natAbs

/-- The text of a magnitude: its shortest digits, laid out. -/
def Binary64.render (value : Binary64) : List Char :=
  if value.isZero then ['0', '.', '0']
  else ((Shortest.decimal value).trim 20).render

end NodeLookup.Decimal
