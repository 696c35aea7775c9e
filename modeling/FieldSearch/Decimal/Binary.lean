import FieldSearch.Decimal.Basic

namespace FieldSearch.Decimal

/-!
# Decimals from binary floating point

A finite binary float is turned into the decimal that a reader would expect:
`0.1` becomes the decimal `0.1` and not the exact value of the float. A whole
number is kept exactly. Otherwise the coefficient is moved from powers of two to
powers of ten within 96 bits, then cut to the digits that the float's precision
vouches for, and trailing zeros after the point are removed. The sign stays,
also on a number that is cut down to zero.
-/

/-- A coefficient with the power of ten that it is multiplied by. -/
structure Scaled where
  coefficient : Nat
  exponent : Int
  deriving Repr, DecidableEq

/--
Divide by powers of two: halve an even coefficient, and otherwise multiply by
five and count a power of ten. Where the product would be too large the
coefficient is halved and loses its last bit.
-/
def divideByTwos : Nat → Scaled → Scaled
  | 0, scaled => scaled
  | steps + 1, scaled =>
      if scaled.coefficient % 2 ≠ 0 ∧ scaled.coefficient * 5 < coefficientLimit then
        divideByTwos steps { scaled with coefficient := scaled.coefficient * 5 }
      else
        divideByTwos steps {
          coefficient := scaled.coefficient / 2
          exponent := scaled.exponent + 1 }

/-- Drop the last digit of a coefficient, rounding a half up. -/
def dropDigit (coefficient : Nat) : Nat :=
  if 5 ≤ coefficient % 10 then coefficient / 10 + 1 else coefficient / 10

/-- Drop surplus places; a coefficient that runs out of digits becomes zero. -/
def limitScale : Nat → Nat → Nat → Nat × Nat
  | 0, coefficient, scale => (coefficient, scale)
  | steps + 1, coefficient, scale =>
      if scale ≤ maxScale then
        (coefficient, scale)
      else if coefficient / 10 = 0 then
        (0, 0)
      else
        limitScale steps (dropDigit coefficient) (scale - 1)

/-- Drop places until the coefficient is below the bound of its precision. -/
def limitPrecision (bound : Nat) : Nat → Nat → Nat × Nat
  | coefficient, 0 => (coefficient, 0)
  | coefficient, scale + 1 =>
      if bound ≤ coefficient then
        limitPrecision bound (dropDigit coefficient) scale
      else
        (coefficient, scale + 1)

/-- The decimal for `significand * 2 ^ exponent`, cut to the given precision. -/
def ofBinary?
    (precision : Nat)
    (negative : Bool)
    (significand : Nat)
    (exponent : Int) :
    Option Decimal :=
  if 0 ≤ exponent then
    ofParts? negative (significand * Nat.pow 2 exponent.natAbs) 0
  else
    let scaled := divideByTwos exponent.natAbs { coefficient := significand, exponent := exponent }
    let places := scaled.exponent.natAbs
    let (coefficient, scale) := limitScale places scaled.coefficient places
    let (coefficient, scale) := limitPrecision (Nat.pow 2 precision) coefficient scale
    let (coefficient, scale) := stripZeros coefficient scale
    ofParts? negative coefficient scale

/-- The layout of a binary floating point format. -/
structure BinaryFormat where
  fractionBits : Nat
  exponentBits : Nat
  bias : Int
  /-- Decimals keep coefficients of at most this many bits. -/
  keptBits : Nat
  deriving Repr, DecidableEq

/-- Double precision. -/
def double : BinaryFormat := ⟨52, 11, 1023, 52⟩

/-- Single precision. -/
def single : BinaryFormat := ⟨23, 8, 127, 24⟩

/-- The decimal for an encoded float; none for infinities, NaNs and large values. -/
def ofBits? (format : BinaryFormat) (bits : Nat) : Option Decimal :=
  let fraction := bits % Nat.pow 2 format.fractionBits
  let biased := bits / Nat.pow 2 format.fractionBits % Nat.pow 2 format.exponentBits
  let negative := bits / Nat.pow 2 (format.fractionBits + format.exponentBits) % 2 == 1
  if biased = Nat.pow 2 format.exponentBits - 1 then
    none
  else if biased = 0 ∧ fraction = 0 then
    ofParts? negative 0 0
  else
    let significand := if biased = 0 then fraction else fraction + Nat.pow 2 format.fractionBits
    let exponent := max (biased : Int) 1 - format.bias - format.fractionBits
    ofBinary? format.keptBits negative significand exponent

end FieldSearch.Decimal
