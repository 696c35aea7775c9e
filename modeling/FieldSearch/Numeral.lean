namespace FieldSearch

/-!
# Integer numerals

Numerals of 64-bit signed integers: an optional sign and decimal digits. A
numeral is read from left to right, so the first fault met decides the error: a
character that is no digit, or a digit that takes the value out of range.
-/

/-- Why a text is not the numeral of a 64-bit integer. -/
inductive NumeralError where
  | empty
  | invalidDigit
  | tooLarge
  | tooSmall
  deriving Repr, DecidableEq

/-- The wording of a numeral error. -/
def NumeralError.message : NumeralError → String
  | empty => "cannot parse integer from empty string"
  | invalidDigit => "invalid digit found in string"
  | tooLarge => "number too large to fit in target type"
  | tooSmall => "number too small to fit in target type"

namespace Numeral

/-- The value of digits after those already read, which must not pass a limit. -/
def readDigits
    (limit : Nat)
    (overflow : NumeralError) :
    Nat →
    List Char →
    Except NumeralError Nat
  | value, [] => .ok value
  | value, character :: rest =>
      if character.isDigit then
        let next := value * 10 + (character.toNat - '0'.toNat)
        if next ≤ limit then
          readDigits limit overflow next rest
        else
          .error overflow
      else
        .error .invalidDigit

/-- The magnitude of digits, of which there has to be at least one. -/
def readMagnitude
    (limit : Nat)
    (overflow : NumeralError)
    (digits : List Char) :
    Except NumeralError Nat :=
  if digits.isEmpty then
    .error .invalidDigit
  else
    readDigits limit overflow 0 digits

/-- Read the numeral of a 64-bit signed integer. -/
def readInt64 (text : String) : Except NumeralError Int64 :=
  match text.toList with
  | [] => .error .empty
  | '-' :: digits => do
      let magnitude ← readMagnitude (Nat.pow 2 63) .tooSmall digits
      return Int64.ofInt (-magnitude)
  | '+' :: digits => do
      let magnitude ← readMagnitude (Nat.pow 2 63 - 1) .tooLarge digits
      return Int64.ofInt magnitude
  | digits => do
      let magnitude ← readMagnitude (Nat.pow 2 63 - 1) .tooLarge digits
      return Int64.ofInt magnitude

/-- The 64-bit integer with the given value, if it is in range. -/
def int64? (value : Int) : Option Int64 :=
  if -Int.pow 2 63 ≤ value ∧ value < Int.pow 2 63 then some (Int64.ofInt value) else none

/-- The value of decimal digits. -/
def digitsToNat (digits : List Char) : Nat :=
  digits.foldl (fun value digit => value * 10 + (digit.toNat - '0'.toNat)) 0

/-- The value of a hexadecimal digit. -/
def hexDigit? (character : Char) : Option Nat :=
  if character.isDigit then
    some (character.toNat - '0'.toNat)
  else if 'a' ≤ character ∧ character ≤ 'f' then
    some (character.toNat - 'a'.toNat + 10)
  else if 'A' ≤ character ∧ character ≤ 'F' then
    some (character.toNat - 'A'.toNat + 10)
  else
    none

/-- The value of hexadecimal digits, of which there may be none. -/
def hexToNat? (digits : List Char) : Option Nat :=
  digits.foldlM (fun value digit => (hexDigit? digit).map (value * 16 + ·)) 0

/-- The character whose number is given in hexadecimal digits. -/
def charOfHex? (digits : List Char) : Option Char := do
  let number ← hexToNat? digits
  if number.isValidChar then some (Char.ofNat number) else none

/-- The numeral of an integer. -/
def intChars (value : Int) : List Char :=
  (if value < 0 then ['-'] else []) ++ Nat.toDigits 10 value.natAbs

/-- Digits of a number with leading zeros up to a width. -/
def paddedDigits (width value : Nat) : List Char :=
  let digits := Nat.toDigits 10 value
  List.replicate (width - digits.length) '0' ++ digits

end Numeral

end FieldSearch
