import FieldSearch.Proofs.Numeral.Digits
import FieldSearch.Proofs.Outcomes
import FieldSearch.Strategy.Scalar
import Mathlib.Data.List.TakeWhile

namespace FieldSearch

open Outcomes

namespace Numeral

/-!
# Integers read and refused

A numeral is an optional sign and at least one digit. It is read as the integer it
denotes, if that one has 64 bits. Anything else is refused for a cause that can be told
from the sign and the longest run of digits behind it: digits that leave the range decide
before what follows them is looked at.
-/

/-- What may stand in front of the digits of an integer. -/
inductive Sign where
  | absent
  | plus
  | minus
  deriving Repr, DecidableEq

namespace Sign

/-- The written form of a sign. -/
def toChars : Sign → List Char
  | absent => []
  | plus => ['+']
  | minus => ['-']

/-- The integer with a sign and a magnitude. -/
def apply (sign : Sign) (magnitude : Nat) : Int :=
  match sign with
  | minus => -magnitude
  | absent | plus => magnitude

/-- The largest magnitude of a 64-bit integer with a sign. -/
def limit : Sign → Nat
  | minus => Nat.pow 2 63
  | absent | plus => Nat.pow 2 63 - 1

/-- How magnitudes beyond the limit are refused. -/
def overflow : Sign → NumeralError
  | minus => .tooSmall
  | absent | plus => .tooLarge

end Sign

/-- The numeral of an integer: an optional sign and at least one digit. -/
structure WrittenInteger where
  sign : Sign
  digits : List Char
  digits_ne_nil : digits ≠ []
  isDigit_of_mem : ∀ digit ∈ digits, digit.isDigit = true

namespace WrittenInteger

/-- The characters of a numeral. -/
def toChars (written : WrittenInteger) : List Char :=
  written.sign.toChars ++ written.digits

/-- The integer that a numeral denotes. -/
def value (written : WrittenInteger) : Int :=
  written.sign.apply (Nat.ofDigitChars 10 written.digits 0)

/-- The numeral that an integer is written as. -/
def ofInt (number : Int) : WrittenInteger where
  sign := if number < 0 then .minus else .absent
  digits := Nat.toDigits 10 number.natAbs
  digits_ne_nil := Nat.toDigits_ne_nil
  isDigit_of_mem := fun _ => isDigit_of_mem_toDigits

theorem toChars_ofInt (number : Int) : (ofInt number).toChars = intChars number := by
  unfold toChars ofInt intChars
  split <;> rfl

theorem value_ofInt (number : Int) : (ofInt number).value = number := by
  unfold value ofInt
  rw [Nat.ofDigitChars_ten_toDigits]
  by_cases negative : number < 0
  · rw [if_pos negative, Sign.apply]
    omega
  · rw [if_neg negative, Sign.apply]
    omega

end WrittenInteger

/-- The sign at the start of a text, and what follows it. -/
def splitSign : List Char → Sign × List Char
  | '+' :: rest => (.plus, rest)
  | '-' :: rest => (.minus, rest)
  | characters => (.absent, characters)

/-- The longest run of digits behind the sign of a text. -/
def leadingDigits (characters : List Char) : List Char :=
  (splitSign characters).2.takeWhile Char.isDigit

/-- The integer of the sign of a text and the longest run of digits behind it. -/
def leadingValue (characters : List Char) : Int :=
  (splitSign characters).1.apply (Nat.ofDigitChars 10 (leadingDigits characters) 0)

/-- A text is the numeral of an integer. -/
def IsNumeral (characters : List Char) : Prop :=
  ∃ written : WrittenInteger, characters = written.toChars

/-- The integers of 64 bits. -/
def InRange (number : Int) : Prop :=
  -2 ^ 63 ≤ number ∧ number < 2 ^ 63

instance : DecidablePred InRange :=
  fun number => inferInstanceAs (Decidable (-2 ^ 63 ≤ number ∧ number < 2 ^ 63))

/-- A text is not the numeral of a 64-bit integer, for a cause. -/
def IsRefusedFor (characters : List Char) : NumeralError → Prop
  | .empty => characters = []
  | .tooLarge => (splitSign characters).1 ≠ .minus ∧ ¬ InRange (leadingValue characters)
  | .tooSmall => (splitSign characters).1 = .minus ∧ ¬ InRange (leadingValue characters)
  | .invalidDigit =>
      characters ≠ [] ∧ InRange (leadingValue characters) ∧ ¬ IsNumeral characters

theorem inRange_apply_iff {sign : Sign} {magnitude : Nat} :
    InRange (sign.apply magnitude) ↔ magnitude ≤ sign.limit := by
  have power : Nat.pow 2 63 = 9223372036854775808 := rfl
  cases sign <;> simp only [InRange, Sign.apply, Sign.limit, power] <;> omega

theorem toInt_ofInt_of_inRange
    {number : Int}
    (inRange : InRange number) :
    (Int64.ofInt number).toInt = number :=
  Int64.toInt_ofInt_of_le inRange.1 inRange.2

theorem inRange_toInt (number : Int64) : InRange number.toInt :=
  ⟨number.le_toInt, number.toInt_lt⟩

/-! Numerals and the parts that a text is divided into. -/

theorem toChars_splitSign (characters : List Char) :
    (splitSign characters).1.toChars ++ (splitSign characters).2 = characters := by
  unfold splitSign
  split <;> rfl

/-- What follows the sign of a numeral are its digits. -/
theorem splitSign_toChars (written : WrittenInteger) :
    splitSign written.toChars = (written.sign, written.digits) := by
  obtain ⟨sign, digits, notEmpty, allDigits⟩ := written
  cases digits with
  | nil =>
      exact absurd rfl notEmpty
  | cons first rest =>
      have isDigit := allDigits first (.head _)
      cases sign with
      | plus | minus =>
          rfl
      | absent =>
          simp only [WrittenInteger.toChars, Sign.toChars, List.nil_append, splitSign]
          split
          · next isPlus =>
              cases isPlus
              cases isDigit
          · next isMinus =>
              cases isMinus
              cases isDigit
          · rfl

/-- A text is a numeral if digits, and nothing else, follow its sign. -/
theorem isNumeral_iff {characters : List Char} :
    IsNumeral characters ↔
      (splitSign characters).2 ≠ [] ∧ (splitSign characters).2.all Char.isDigit = true := by
  rw [List.all_eq_true]
  constructor
  · rintro ⟨written, rfl⟩
    rw [splitSign_toChars]
    exact ⟨written.digits_ne_nil, written.isDigit_of_mem⟩
  · rintro ⟨notEmpty, allDigits⟩
    exact ⟨⟨_, _, notEmpty, allDigits⟩, (toChars_splitSign characters).symm⟩

instance : DecidablePred IsNumeral :=
  fun _ => decidable_of_iff _ isNumeral_iff.symm

theorem IsNumeral.leadingDigits_eq
    {characters : List Char}
    (numeral : IsNumeral characters) :
    leadingDigits characters = (splitSign characters).2 :=
  List.takeWhile_eq_self_iff.mpr (List.all_eq_true.mp (isNumeral_iff.mp numeral).2)

theorem leadingValue_toChars (written : WrittenInteger) :
    leadingValue written.toChars = written.value := by
  have allDigits := IsNumeral.leadingDigits_eq ⟨written, rfl⟩
  rw [leadingValue, allDigits, splitSign_toChars, WrittenInteger.value]

/-! What is read of the digits and of what follows them. -/

/--
Reading stays within the limit as long as the run of digits does. If the run ends before
the text does, its end is no digit.
-/
theorem readDigits_eq
    {limit : Nat}
    {overflow : NumeralError}
    {value : Nat}
    (within : value ≤ limit)
    (characters : List Char) :
    readDigits limit overflow value characters =
      if Nat.ofDigitChars 10 (characters.takeWhile Char.isDigit) value ≤ limit then
        if characters.all Char.isDigit then
          .ok (Nat.ofDigitChars 10 characters value)
        else
          .error .invalidDigit
      else
        .error overflow := by
  induction characters generalizing value with
  | nil =>
      simp [readDigits, within]
  | cons character rest inductionHypothesis =>
      have nextEq :
          10 * value + (character.toNat - '0'.toNat) =
            value * 10 + (character.toNat - '0'.toNat) := by
        rw [Nat.mul_comm]
      by_cases isDigit : character.isDigit = true
      · rw [List.takeWhile_cons_of_pos isDigit, Nat.ofDigitChars_cons, Nat.ofDigitChars_cons,
          nextEq, List.all_cons, isDigit, Bool.true_and, readDigits, if_pos isDigit]
        by_cases fits : value * 10 + (character.toNat - '0'.toNat) ≤ limit
        · rw [if_pos fits, inductionHypothesis fits]
        · -- More digits do not bring the value back into the range.
          have beyond :=
            le_ofDigitChars (rest.takeWhile Char.isDigit)
              (value * 10 + (character.toNat - '0'.toNat))
          rw [if_neg fits, if_neg (by omega)]
      · rw [List.takeWhile_cons_of_neg isDigit, Nat.ofDigitChars_nil, if_pos within, readDigits,
          if_neg isDigit]
        simp [isDigit]

theorem readMagnitude_eq
    (limit : Nat)
    (overflow : NumeralError)
    (characters : List Char) :
    readMagnitude limit overflow characters =
      if Nat.ofDigitChars 10 (characters.takeWhile Char.isDigit) 0 ≤ limit then
        if characters ≠ [] ∧ characters.all Char.isDigit = true then
          .ok (Nat.ofDigitChars 10 characters 0)
        else
          .error .invalidDigit
      else
        .error overflow := by
  cases characters with
  | nil =>
      simp [readMagnitude]
  | cons first rest =>
      rw [readMagnitude, List.isEmpty_cons, if_neg Bool.false_ne_true,
        readDigits_eq (Nat.zero_le limit)]
      simp only [ne_eq, reduceCtorEq, not_false_eq_true, true_and]

/-- A text is read by its sign, which decides the limit of the magnitude behind it. -/
theorem readInt64_eq_map
    {text : String}
    (notEmpty : text.toList ≠ []) :
    readInt64 text =
      (readMagnitude (splitSign text.toList).1.limit (splitSign text.toList).1.overflow
        (splitSign text.toList).2).map
          fun magnitude => Int64.ofInt ((splitSign text.toList).1.apply magnitude) := by
  unfold readInt64
  generalize text.toList = characters at notEmpty ⊢
  split
  · exact absurd rfl notEmpty
  · rfl
  · rfl
  · next notMinus notPlus =>
      have isAbsent : splitSign characters = (.absent, characters) := by
        unfold splitSign
        split
        · exact absurd rfl (notPlus _)
        · exact absurd rfl (notMinus _)
        · rfl
      rw [isAbsent]
      rfl

/-- The range decides before the form of a text does. -/
theorem readInt64_eq
    {text : String}
    (notEmpty : text.toList ≠ []) :
    readInt64 text =
      if InRange (leadingValue text.toList) then
        if IsNumeral text.toList then
          .ok (Int64.ofInt (leadingValue text.toList))
        else
          .error .invalidDigit
      else
        .error (splitSign text.toList).1.overflow := by
  rw [readInt64_eq_map notEmpty, readMagnitude_eq]
  simp only [leadingValue, inRange_apply_iff, isNumeral_iff, leadingDigits]
  split
  · split
    · next numeral =>
        rw [List.takeWhile_eq_self_iff.mpr (List.all_eq_true.mp numeral.2)]
        rfl
    · rfl
  · rfl

theorem readInt64_of_isEmpty
    {text : String}
    (isEmpty : text.toList = []) :
    readInt64 text = .error .empty := by
  rw [readInt64, isEmpty]

/-- A text is read as an integer if it is a numeral that denotes the integer. -/
theorem readInt64_eq_ok_iff {text : String} {number : Int64} :
    readInt64 text = .ok number ↔
      ∃ written : WrittenInteger,
        text.toList = written.toChars ∧ written.value = number.toInt := by
  constructor
  · intro read
    have notEmpty : text.toList ≠ [] := by
      intro isEmpty
      rw [readInt64_of_isEmpty isEmpty] at read
      cases read
    rw [readInt64_eq notEmpty] at read
    split at read
    · next inRange =>
        split at read
        · next numeral =>
            obtain ⟨written, isWritten⟩ := numeral
            obtain rfl := Except.ok.inj read
            refine ⟨written, isWritten, ?_⟩
            rw [toInt_ofInt_of_inRange inRange, isWritten, leadingValue_toChars]
        · cases read
    · cases read
  · rintro ⟨written, isWritten, denotes⟩
    have numeral : IsNumeral text.toList := ⟨written, isWritten⟩
    have value : leadingValue text.toList = number.toInt := by
      rw [isWritten, leadingValue_toChars, denotes]
    have notEmpty : text.toList ≠ [] := by
      rintro isEmpty
      rw [isEmpty] at numeral
      exact (isNumeral_iff.mp numeral).1 rfl
    rw [readInt64_eq notEmpty, value, if_pos (inRange_toInt number), if_pos numeral,
      Int64.ofInt_toInt]

/-- A text is refused for the cause that its sign and its leading digits tell. -/
theorem readInt64_eq_error_iff {text : String} {cause : NumeralError} :
    readInt64 text = .error cause ↔ IsRefusedFor text.toList cause := by
  by_cases isEmpty : text.toList = []
  · have zeroInRange : InRange (leadingValue []) := by decide
    rw [readInt64_of_isEmpty isEmpty, isEmpty]
    cases cause <;> simp [IsRefusedFor, zeroInRange]
  · rw [readInt64_eq isEmpty]
    by_cases inRange : InRange (leadingValue text.toList)
    · by_cases numeral : IsNumeral text.toList <;>
        cases cause <;> simp [IsRefusedFor, isEmpty, inRange, numeral]
    · cases sign : (splitSign text.toList).1 <;>
        cases cause <;> simp [IsRefusedFor, isEmpty, inRange, sign, Sign.overflow]

end Numeral

namespace Strategy

theorem integer_read (type : ValueType) (text : String) :
    Strategy.integer.read type text =
      ((Numeral.readInt64 text).map fun number => .scalar (.integer number)).mapError
        .integer := by
  simp only [integer, elementwise]
  cases Numeral.readInt64 text <;> rfl

/--
Integers are read from their numerals, with any number of leading zeros, and from nothing
else. All other texts are refused, for a cause that their sign and leading digits tell: an
empty text as such, a run of digits that leaves the range as too large or too small,
whatever follows it, and the rest for a character that is no digit. What is written of an
integer is read as that integer.
-/
theorem integer_reads_numerals (type : ValueType) (text : String) :
    (∀ operand,
      Strategy.integer.read type text = .ok operand ↔
        ∃ (written : Numeral.WrittenInteger) (number : Int64),
          text.toList = written.toChars ∧
            written.value = number.toInt ∧ operand = .scalar (.integer number)) ∧
      (∀ failure,
        Strategy.integer.read type text = .error failure ↔
          ∃ cause, Numeral.IsRefusedFor text.toList cause ∧ failure = .integer cause) ∧
        ∀ number : Int64,
          Strategy.integer.read type (Scalar.integer number).toText =
            .ok (.scalar (.integer number)) := by
  simp only [integer_read, mapError_eq_ok, mapError_eq_error, map_eq_ok, map_eq_error,
    Numeral.readInt64_eq_ok_iff, Numeral.readInt64_eq_error_iff]
  refine ⟨fun operand => ?_, fun failure => ?_, fun number => ?_⟩
  · constructor
    · rintro ⟨number, ⟨written, isWritten, denotes⟩, rfl⟩
      exact ⟨written, number, isWritten, denotes, rfl⟩
    · rintro ⟨written, number, isWritten, denotes, rfl⟩
      exact ⟨number, ⟨written, isWritten, denotes⟩, rfl⟩
  · simp only [eq_comm]
  · refine ⟨number, ⟨.ofInt number.toInt, ?_, Numeral.WrittenInteger.value_ofInt _⟩, rfl⟩
    rw [Scalar.toText, String.toList_ofList, Numeral.WrittenInteger.toChars_ofInt]

/-- The range is left before the character that is no digit is met. -/
example :
    Strategy.integer.read (.ofKind .integer) "-9223372036854775809x" =
      .error (.integer .tooSmall) := by
  rfl

end Strategy

end FieldSearch
