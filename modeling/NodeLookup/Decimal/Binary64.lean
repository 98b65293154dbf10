/-!
# Double-precision magnitudes

The nonnegative finite numbers that sixty-four bits of floating point can hold, as a whole mantissa
times a power of two, with every operation rounded exactly once to the nearest of them, a tie going
to the even mantissa.
-/

namespace NodeLookup.Decimal

/-- The magnitude `mantissa · 2 ^ exponent`. A normalised value has a mantissa below `2 ^ 53`, at
least `2 ^ 52` unless the exponent is the least one. -/
structure Binary64 where
  mantissa : Nat
  exponent : Int
deriving DecidableEq, Repr, Inhabited

namespace Binary64

/-- The exponent of the smallest magnitudes. -/
def leastExponent : Int := -1074

/-- The exponent of the greatest magnitudes. -/
def greatestExponent : Int := 971

/-- The least mantissa of fifty-three bits. -/
def leastNormal : Nat := 0x10000000000000

/-- The magnitude zero. -/
def zero : Binary64 := ⟨0, leastExponent⟩

/-- Whether the magnitude is zero. -/
def isZero (value : Binary64) : Bool := value.mantissa == 0

/-- A quotient rounded to the nearest whole number, a tie going to the even one. -/
def roundDiv (numerator denominator : Nat) : Nat :=
  let quotient := numerator / denominator
  let twice := 2 * (numerator % denominator)
  if twice < denominator then quotient
  else if denominator < twice then quotient + 1
  else quotient + quotient % 2

/-- Numerator and denominator of a quotient after a division by `2 ^ exponent`. -/
def scaled (numerator denominator : Nat) (exponent : Int) : Nat × Nat :=
  if 0 ≤ exponent then (numerator, denominator * Nat.pow 2 exponent.toNat)
  else (numerator * Nat.pow 2 (-exponent).toNat, denominator)

/-- The exponent at which a positive quotient has a mantissa of fifty-three bits, or the least
exponent for a quotient too small for that. -/
def exponentFor (numerator denominator : Nat) : Int :=
  let guess : Int := (numerator.log2 : Int) - (denominator.log2 : Int) - 52
  let parts := scaled numerator denominator guess
  let exact := if parts.1 / parts.2 < leastNormal then guess - 1 else guess
  max leastExponent exact

/-- The magnitude nearest to a quotient, or nothing when that lies beyond the greatest one. -/
def nearest? (numerator denominator : Nat) : Option Binary64 :=
  if numerator = 0 then some zero
  else
    let exponent := exponentFor numerator denominator
    let parts := scaled numerator denominator exponent
    let mantissa := roundDiv parts.1 parts.2
    let value : Binary64 :=
      if mantissa = 2 * leastNormal then ⟨leastNormal, exponent + 1⟩ else ⟨mantissa, exponent⟩
    if greatestExponent < value.exponent then none else some value

/-- The value as an exact quotient. -/
def quotient (value : Binary64) : Nat × Nat :=
  if 0 ≤ value.exponent then (value.mantissa * Nat.pow 2 value.exponent.toNat, 1)
  else (value.mantissa, Nat.pow 2 (-value.exponent).toNat)

/-- The rounded product of two magnitudes, or nothing when it is too great. -/
def mul? (left right : Binary64) : Option Binary64 :=
  let leftParts := left.quotient
  let rightParts := right.quotient
  nearest? (leftParts.1 * rightParts.1) (leftParts.2 * rightParts.2)

/-- The rounded quotient of two magnitudes, or nothing when it is too great. -/
def div? (left right : Binary64) : Option Binary64 :=
  let leftParts := left.quotient
  let rightParts := right.quotient
  nearest? (leftParts.1 * rightParts.2) (leftParts.2 * rightParts.1)

/-- The magnitude nearest to a power of ten, zero standing in for one that is too great. -/
def powerOfTen (power : Nat) : Binary64 := (nearest? (Nat.pow 10 power) 1).getD zero

end Binary64

end NodeLookup.Decimal
