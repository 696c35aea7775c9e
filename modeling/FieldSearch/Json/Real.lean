import FieldSearch.Double
import FieldSearch.Json.Basic
import FieldSearch.Numeral

namespace FieldSearch.Json

/-!
# Numbers as doubles

The double that a numeral stands for. The digits are collected in 64 bits, where
one that does not fit is dropped with those that follow it, and the power of ten
is applied by one rounded multiplication or division. So the result of a long
numeral may be a neighbour of the nearest double.
-/

/-- The bound of collected digits. -/
def significandLimit : Nat := Nat.pow 2 64

/-- Digits collected after those already read, and the digits that do not fit. -/
def collect (significand : Nat) : List Char → Nat × List Char
  | [] => (significand, [])
  | digit :: rest =>
      let next := significand * 10 + (digit.toNat - '0'.toNat)
      if next < significandLimit then collect next rest else (significand, digit :: rest)

/-- The parts of an unsigned numeral. -/
structure NumeralParts where
  whole : List Char
  fraction : List Char
  exponent : Int
  deriving Repr, DecidableEq

/-- The value of an exponent with an optional sign. -/
def exponentValue : List Char → Int
  | '-' :: digits => -Numeral.digitsToNat digits
  | '+' :: digits => Numeral.digitsToNat digits
  | digits => Numeral.digitsToNat digits

/-- Split an unsigned numeral into its parts. -/
def NumeralParts.ofChars (characters : List Char) : NumeralParts :=
  let rest := characters.dropWhile Char.isDigit
  let (fraction, rest) :=
    match rest with
    | '.' :: rest => (rest.takeWhile Char.isDigit, rest.dropWhile Char.isDigit)
    | _ => ([], rest)
  { whole := characters.takeWhile Char.isDigit
    fraction := fraction
    exponent := exponentValue (rest.drop 1) }

/-- The largest exponent of ten of a double. -/
def maxTens : Nat := 308

/-- The double nearest to a power of ten. -/
def tens? (exponent : Nat) : Option Double :=
  Double.ofRatio? (Nat.pow 10 exponent) 1

/-- Divide a number of times by the largest power of ten of a double. -/
def divideBySteps? : Nat → Double → Option Double
  | 0, double => some double
  | steps + 1, double =>
      if double.significand = 0 then
        some double
      else
        tens? maxTens >>= double.div? >>= divideBySteps? steps

/-- Divide by a power of ten in steps that a double can hold. -/
def divideByTens? (double : Double) (exponent : Nat) : Option Double := do
  let steps := (exponent - 1) / maxTens
  let quotient ← divideBySteps? steps double
  tens? (exponent - steps * maxTens) >>= quotient.div?

/-- Multiply by a power of ten, if a double can hold it. -/
def multiplyByTens? (double : Double) (exponent : Nat) : Option Double :=
  if double.significand = 0 then
    some double
  else if maxTens < exponent then
    none
  else
    tens? exponent >>= double.mul?

/-- The double of an unsigned numeral, if it is in range. -/
def NumeralParts.toDouble? (parts : NumeralParts) : Option Double := do
  let (significand, overflow) := collect 0 parts.whole
  let (significand, surplus) := collect significand parts.fraction
  let places : Int := parts.fraction.length - surplus.length
  let exponent := parts.exponent + overflow.length - places
  let start ← Double.ofRatio? significand 1
  if exponent < 0 then
    divideByTens? start exponent.natAbs
  else
    multiplyByTens? start exponent.natAbs

/-- The written form, without an exponent, of the double that a numeral stands for. -/
def doubleChars? : List Char → Option (List Char)
  | '-' :: magnitude =>
      (NumeralParts.ofChars magnitude).toDouble?.map fun double => '-' :: double.toChars
  | magnitude => (NumeralParts.ofChars magnitude).toDouble?.map Double.toChars

end FieldSearch.Json
