namespace FieldSearch

/-!
# Decimals

Decimal numbers of bounded size: a sign, a coefficient of 96 bits and a scale of
at most 28 places. The scale is part of the number, so `1.5` and `1.50` are
different as written and equal in value (`Decimal.compare`).
-/

namespace Decimal

/-- Coefficients stay below this bound. -/
def coefficientLimit : Nat := Nat.pow 2 96

/-- The largest number of places after the point. -/
def maxScale : Nat := 28

end Decimal

/-- A decimal number, as a coefficient divided by a power of ten. -/
structure Decimal where
  negative : Bool
  coefficient : Nat
  scale : Nat
  coefficient_lt : coefficient < Decimal.coefficientLimit
  scale_le : scale ≤ Decimal.maxScale
  deriving Repr, DecidableEq

namespace Decimal

/-- The decimal with the given parts, if they are within the bounds. -/
def ofParts?
    (negative : Bool)
    (coefficient scale : Nat) :
    Option Decimal :=
  if bounds : coefficient < coefficientLimit ∧ scale ≤ maxScale then
    some {
      negative := negative
      coefficient := coefficient
      scale := scale
      coefficient_lt := bounds.1
      scale_le := bounds.2
    }
  else
    none

/-- The decimal with the given parts, where zero takes no sign. -/
def ofUnsignedZeroParts?
    (negative : Bool)
    (coefficient scale : Nat) :
    Option Decimal :=
  ofParts? (negative && coefficient != 0) coefficient scale

/-- The signed coefficient. -/
def numerator (decimal : Decimal) : Int :=
  if decimal.negative then -decimal.coefficient else decimal.coefficient

/-- The power of ten that the coefficient is divided by. -/
def denominator (decimal : Decimal) : Int :=
  Int.pow 10 decimal.scale

/-- Compare two decimals by value. -/
def compare (left right : Decimal) : Ordering :=
  Ord.compare (left.numerator * right.denominator) (right.numerator * left.denominator)

/-- Compare an integer with a decimal by value. -/
def compareInt (left : Int) (right : Decimal) : Ordering :=
  Ord.compare (left * right.denominator) right.numerator

/-- Equality of value. -/
def sameValue (left right : Decimal) : Bool :=
  left.compare right == .eq

/-- Remove zeros from the end of the places. -/
def stripZeros : Nat → Nat → Nat × Nat
  | coefficient, 0 => (coefficient, 0)
  | coefficient, scale + 1 =>
      if coefficient % 10 = 0 then
        stripZeros (coefficient / 10) scale
      else
        (coefficient, scale + 1)

/-- The digits of the coefficient, with leading zeros up to one before the point. -/
def paddedDigits (decimal : Decimal) : List Char :=
  let digits := Nat.toDigits 10 decimal.coefficient
  List.replicate (decimal.scale + 1 - digits.length) '0' ++ digits

/-- The written form, with as many places after the point as the scale says. -/
def toChars (decimal : Decimal) : List Char :=
  let digits := decimal.paddedDigits
  let whole := digits.take (digits.length - decimal.scale)
  let places := digits.drop (digits.length - decimal.scale)
  (if decimal.negative then ['-'] else []) ++ whole ++
    (if decimal.scale = 0 then [] else '.' :: places)

instance : ToString Decimal where
  toString decimal := String.ofList decimal.toChars

end Decimal

end FieldSearch
