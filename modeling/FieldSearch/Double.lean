namespace FieldSearch

/-!
# Doubles

Finite binary floating point numbers of double precision, without a sign, in
exact arithmetic on naturals. A ratio is rounded to the nearest double, a tie to
the even significand. A double is written in the fewest digits that read back as
it, which are the multiple of the coarsest power of ten in the interval of
numbers that round to it.
-/

/-- The number `significand * 2 ^ exponent`. -/
structure Double where
  significand : Nat
  exponent : Int
  deriving Repr, DecidableEq

namespace Double

/-- The exponent of the smallest positive double. -/
def minExponent : Int := -1074

/-- The exponent of the largest doubles. -/
def maxExponent : Int := 971

/-- The number of bits of a significand. -/
def precision : Nat := 53

/-- A quotient rounded to the nearest natural, a tie to the even one. -/
def roundQuotient (dividend divisor : Nat) : Nat :=
  let quotient := dividend / divisor
  let twice := 2 * (dividend % divisor)
  if divisor < twice ∨ twice = divisor ∧ quotient % 2 = 1 then quotient + 1 else quotient

/-- A ratio multiplied by a power of two. -/
def scaleRatio (ratio : Nat × Nat) (exponent : Int) : Nat × Nat :=
  if 0 ≤ exponent then
    (ratio.1 * Nat.pow 2 exponent.natAbs, ratio.2)
  else
    (ratio.1, ratio.2 * Nat.pow 2 exponent.natAbs)

/-- The exponent that gives the rounded ratio all bits of a significand. -/
def exponentOf (dividend divisor : Nat) : Int :=
  let low : Int := dividend.log2 - divisor.log2 - precision
  let (scaled, unit) := scaleRatio (dividend, divisor) (-low)
  max minExponent (if scaled / unit < Nat.pow 2 precision then low else low + 1)

/-- The double nearest to a ratio, if it is finite. -/
def ofRatio? (dividend divisor : Nat) : Option Double :=
  let exponent := exponentOf dividend divisor
  let (scaled, unit) := scaleRatio (dividend, divisor) (-exponent)
  let significand := roundQuotient scaled unit
  let rounded : Double :=
    if significand < Nat.pow 2 precision then
      ⟨significand, exponent⟩
    else
      ⟨significand / 2, exponent + 1⟩
  if rounded.exponent ≤ maxExponent then some rounded else none

/-- The exact value, as a ratio. -/
def toRatio (double : Double) : Nat × Nat :=
  scaleRatio (double.significand, 1) double.exponent

/-- The rounded product. -/
def mul? (left right : Double) : Option Double :=
  let (dividend, divisor) := left.toRatio
  let (factor, part) := right.toRatio
  ofRatio? (dividend * factor) (divisor * part)

/-- The rounded quotient. -/
def div? (left right : Double) : Option Double :=
  let (dividend, divisor) := left.toRatio
  let (factor, part) := right.toRatio
  ofRatio? (dividend * part) (divisor * factor)

/-- Whether a double is the least one with its exponent, so that the next lower is nearer. -/
def isLeast (double : Double) : Bool :=
  double.significand == Nat.pow 2 (precision - 1) && minExponent < double.exponent

/-- Whether a fourfold number, in units of the last place, rounds to a double. -/
def roundsTo (double : Double) (fourfold unit : Nat) : Bool :=
  let low := (4 * double.significand - if double.isLeast then 1 else 2) * unit
  let high := (4 * double.significand + 2) * unit
  if double.significand % 2 = 0 then
    decide (low ≤ fourfold ∧ fourfold ≤ high)
  else
    decide (low < fourfold ∧ fourfold < high)

/-- A power of ten as a ratio. -/
def powerOfTen (exponent : Int) : Nat × Nat :=
  if 0 ≤ exponent then (Nat.pow 10 exponent.natAbs, 1) else (1, Nat.pow 10 exponent.natAbs)

/-- The multiple of a power of ten that rounds to a double and is nearest to it. -/
def multiple? (double : Double) (power : Int) : Option Nat :=
  let (grid, part) := powerOfTen power
  let (one, places) := scaleRatio (1, 1) double.exponent
  let point := double.significand * one * part
  let step := grid * places
  let below := point / step
  let fits (multiple : Nat) : Bool :=
    double.roundsTo (4 * multiple * step) (one * part)
  let isBelowNearer := decide (2 * (point % step) ≤ step)
  if fits below && (isBelowNearer || !fits (below + 1)) then
    some below
  else if fits (below + 1) then
    some (below + 1)
  else
    none

/-- Digits and their power of ten on the coarsest grid from a given one on. -/
def digitsFrom (double : Double) : Nat → Int → Nat × Int
  | 0, power => (0, power)
  | steps + 1, power =>
      match double.multiple? power with
      | some multiple => (multiple, power)
      | none => digitsFrom double steps (power - 1)

/-- The fewest digits that read back as a double, and their power of ten. -/
def shortest (double : Double) : Nat × Int :=
  if double.significand = 0 then (0, 0) else digitsFrom double 700 309

/-- The written form without an exponent, in the fewest digits. -/
def toChars (double : Double) : List Char :=
  let (digits, power) := double.shortest
  let written := Nat.toDigits 10 digits
  if 0 ≤ power then
    written ++ List.replicate power.natAbs '0'
  else
    let places := power.natAbs
    let padded := List.replicate (places + 1 - written.length) '0' ++ written
    padded.take (padded.length - places) ++ '.' :: padded.drop (padded.length - places)

end Double

end FieldSearch
