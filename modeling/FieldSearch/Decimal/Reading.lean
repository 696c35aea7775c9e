import FieldSearch.Decimal.Basic

namespace FieldSearch

/-!
# Reading decimals

Plain notation keeps the written scale. Digits that the coefficient or the
scale cannot hold are dropped after the point, and the first of them rounds the
rest, halves away from zero. A grouping mark between the last digit kept and the
first one dropped is passed over if the coefficient is wide, and otherwise it
counts as a dropped zero. In scientific notation an exponent moves the point.
-/

/-- Why a text is no decimal in plain notation. -/
inductive DecimalError where
  | empty
  | noDigits
  | unknownCharacter
  | secondPoint
  | leadingMark
  /-- There are more digits before the point than a coefficient holds. -/
  | tooManyDigits
  /-- Rounding makes the largest coefficient larger. -/
  | roundedTooLarge
  deriving Repr, DecidableEq

namespace DecimalError

/-- The wording of a decimal error. -/
def message : DecimalError → String
  | empty => "Invalid decimal: empty"
  | noDigits => "Invalid decimal: no digits found"
  | unknownCharacter => "Invalid decimal: unknown character"
  | secondPoint => "Invalid decimal: two decimal points"
  | leadingMark => "Invalid decimal: must start lead with a number"
  | tooManyDigits => "Invalid decimal: overflow from too many digits"
  | roundedTooLarge => "Invalid decimal: overflow from mantissa after rounding"

/-- The error of a character that has no place where it stands. -/
def ofChar (character : Char) : DecimalError :=
  if character = '.' then
    secondPoint
  else if character = '_' then
    leadingMark
  else
    unknownCharacter

end DecimalError

namespace Decimal

/-- A coefficient from which the next digit could leave 64 bits, with a margin. -/
def wideCoefficient : Nat := (Nat.pow 2 64 - 1) / 10 - 255

/-- Round a coefficient up by one, giving up a place if it becomes too large. -/
def roundUp (coefficient scale : Nat) : Except DecimalError (Nat × Nat) :=
  if coefficient + 1 < coefficientLimit then
    .ok (coefficient + 1, scale)
  else if scale = 0 then
    .error .roundedTooLarge
  else
    .ok ((coefficient + 5) / 10, scale - 1)

/-- A character that may stand among digits that are dropped. -/
def isDroppable (character : Char) : Bool :=
  character.isDigit || character == '_'

/-- Finish a number whose remaining characters do not fit any more. -/
def roundOff
    (coefficient scale : Nat)
    (dropped : List Char) :
    Except DecimalError (Nat × Nat) :=
  match dropped.find? (!isDroppable ·) with
  | some character => .error (.ofChar character)
  | none =>
      if dropped.head?.any fun first => first.isDigit && '5' ≤ first then
        roundUp coefficient scale
      else
        .ok (coefficient, scale)

/-- The characters after the last place that can be kept, by what rounds them. -/
def droppedAfter (coefficient : Nat) (characters : List Char) : List Char :=
  if wideCoefficient ≤ coefficient / 10 then
    characters.dropWhile (· == '_')
  else
    characters

/-- How far a number has been read. -/
structure Progress where
  pointSeen : Bool := false
  digitSeen : Bool := false
  coefficient : Nat := 0
  scale : Nat := 0
  deriving Repr, DecidableEq

/-- The progress after one more digit. -/
def Progress.push (progress : Progress) (digit : Char) : Progress :=
  { progress with
    digitSeen := true
    coefficient := progress.coefficient * 10 + (digit.toNat - '0'.toNat)
    scale := if progress.pointSeen then progress.scale + 1 else 0 }

/-- Read the characters after the sign to a coefficient and a scale. -/
def readFrom (progress : Progress) : List Char → Except DecimalError (Nat × Nat)
  | [] =>
      if progress.digitSeen then
        .ok (progress.coefficient, progress.scale)
      else
        .error .noDigits
  | character :: rest =>
      if maxScale ≤ progress.scale then
        roundOff progress.coefficient progress.scale
          (droppedAfter progress.coefficient (character :: rest))
      else if character.isDigit then
        let next := progress.push character
        if next.coefficient < coefficientLimit then
          readFrom next rest
        else if progress.pointSeen then
          roundOff progress.coefficient progress.scale (character :: rest)
        else
          .error .tooManyDigits
      else if character = '.' ∧ progress.pointSeen = false then
        readFrom { progress with pointSeen := true } rest
      else if character = '_' ∧ progress.digitSeen then
        readFrom progress rest
      else
        .error (.ofChar character)

/-- Split a leading sign from the rest of a number. -/
def splitSign : List Char → Bool × List Char
  | '-' :: rest => (true, rest)
  | '+' :: rest => (false, rest)
  | characters => (false, characters)

/-- Read plain notation. -/
def readPlain : List Char → Except DecimalError Decimal
  | [] => .error .empty
  | characters => do
      let (negative, rest) := splitSign characters
      let (coefficient, scale) ← readFrom {} rest
      match ofUnsignedZeroParts? negative coefficient scale with
      | some decimal => .ok decimal
      | none => .error .tooManyDigits

/-- A character that separates a base from its exponent. -/
def isExponentMark (character : Char) : Bool :=
  character == 'e' || character == 'E'

/-- Read an unsigned exponent of 32 bits; one plus sign may stand before it. -/
def readExponent? (characters : List Char) : Option Nat :=
  let digits :=
    match characters with
    | '+' :: rest => rest
    | _ => characters
  if digits.isEmpty || !digits.all Char.isDigit then
    none
  else
    let exponent := Nat.ofDigitChars 10 digits 0
    if exponent < Nat.pow 2 32 then some exponent else none

/-- Round a decimal to fewer places, halves away from zero. -/
def roundTo (coefficient places fewer : Nat) : Nat :=
  let dropped := places - fewer
  let kept := coefficient / Nat.pow 10 dropped
  if dropped ≠ 0 ∧ 5 ≤ coefficient / Nat.pow 10 (dropped - 1) % 10 then kept + 1 else kept

/-- Divide a decimal by a power of ten, rounding places that do not fit. -/
def shiftRight? (base : Decimal) (exponent : Nat) : Option Decimal :=
  if maxScale < exponent then
    none
  else if base.scale + exponent ≤ maxScale then
    ofParts? base.negative base.coefficient (base.scale + exponent)
  else
    ofParts? base.negative
      (roundTo base.coefficient base.scale (maxScale - exponent)) maxScale

/-- Multiply a decimal by a power of ten. -/
def shiftLeft? (base : Decimal) (exponent : Nat) : Option Decimal :=
  if exponent ≤ base.scale then
    ofParts? base.negative base.coefficient (base.scale - exponent)
  else if maxScale < exponent then
    none
  else
    ofParts? base.negative (base.coefficient * Nat.pow 10 (exponent - base.scale)) 0

/-- Read scientific notation. -/
def readScientific? (characters : List Char) : Option Decimal := do
  let base ← (readPlain (characters.takeWhile (!isExponentMark ·))).toOption
  match characters.dropWhile (!isExponentMark ·) with
  | [] => none
  | _ :: '-' :: exponent => shiftRight? base (← readExponent? exponent)
  | _ :: exponent => shiftLeft? base (← readExponent? exponent)

/-- Read either notation. -/
def ofString? (text : String) : Option Decimal :=
  let characters := text.toList
  (readPlain characters).toOption <|> readScientific? characters

end Decimal

end FieldSearch
