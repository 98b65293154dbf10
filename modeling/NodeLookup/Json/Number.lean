import NodeLookup.Decimal.Shortest

/-!
# Numbers in a document

A numeral stands for a whole number when it is written as one and fits in sixty-four bits, and for a
double-precision number otherwise. Minus zero is not a whole number.
-/

namespace NodeLookup.Json

/-- What a numeral stands for. -/
inductive Number where
  | natural (value : Nat)
  /-- The whole number `-value`, which is below zero. -/
  | negative (value : Nat)
  | floating (below : Bool) (magnitude : Decimal.Binary64)
deriving DecidableEq, Repr, Inhabited

namespace Number

/-- The greatest natural number a numeral can stand for. -/
def greatestNatural : Nat := 0xFFFFFFFFFFFFFFFF

/-- The magnitude of the least negative number a numeral can stand for. -/
def greatestNegative : Nat := 0x8000000000000000

/-- The shortest text of a number that reads back as it. -/
def render : Number → List Char
  | natural value => Decimal.digitsOf value
  | negative value => '-' :: Decimal.digitsOf value
  | floating false magnitude => magnitude.render
  | floating true magnitude => '-' :: magnitude.render

/-- The whole number that a numeral without fraction and exponent stands for. -/
def ofWhole (below : Bool) (value : Nat) : Number :=
  if below then
    if 0 < value ∧ value ≤ greatestNegative then negative value
    else floating true ((Decimal.Binary64.nearest? value 1).getD .zero)
  else natural value

/-- The magnitude that `significand · 10 ^ exponent` is read as: the significand is rounded first and
then scaled by a rounded power of ten, in steps of at most `10 ^ 308`. Nothing when it is too
great. -/
def scale? (significand : Nat) (exponent : Int) : Option Decimal.Binary64 :=
  match Decimal.Binary64.nearest? significand 1 with
  | none => none
  | some start =>
    if exponent.natAbs ≤ 308 then
      if 0 ≤ exponent then start.mul? (.powerOfTen exponent.toNat)
      else start.div? (.powerOfTen exponent.natAbs)
    else if start.isZero then some start
    else if 0 ≤ exponent then none
    else if exponent + 308 < -308 then some .zero
    else
      (start.div? (.powerOfTen 308)).bind fun scaled =>
        scaled.div? (.powerOfTen (exponent + 308).natAbs)

end Number

end NodeLookup.Json
