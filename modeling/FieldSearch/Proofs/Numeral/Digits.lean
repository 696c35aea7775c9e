import FieldSearch.Numeral
import Mathlib.Tactic.Ring

namespace FieldSearch.Numeral

/-!
# Numbers in digits

A number that fits a width is written in exactly so many digits, and these read as
the number. Digits that follow others add to the number in front of them.
-/

theorem isDigit_of_mem_toDigits
    {number : Nat}
    {digit : Char}
    (member : digit ∈ Nat.toDigits 10 number) :
    digit.isDigit = true :=
  Nat.isDigit_of_mem_toDigits (by decide) (by decide) member

theorem isDigit_of_mem_paddedDigits
    {width value : Nat}
    {character : Char}
    (member : character ∈ paddedDigits width value) :
    character.isDigit = true := by
  rcases List.mem_append.mp member with isPadding | isOwn
  · rw [(List.mem_replicate.mp isPadding).2]
    rfl
  · exact isDigit_of_mem_toDigits isOwn

theorem length_paddedDigits
    {width value : Nat}
    (widthPositive : 0 < width)
    (fits : value < 10 ^ width) :
    (paddedDigits width value).length = width := by
  have within : (Nat.toDigits 10 value).length ≤ width :=
    (Nat.length_toDigits_le_iff (by decide) widthPositive).mpr fits
  rw [paddedDigits, List.length_append, List.length_replicate, Nat.sub_add_cancel within]

@[simp] theorem ofDigitChars_paddedDigits (width value : Nat) :
    Nat.ofDigitChars 10 (paddedDigits width value) 0 = value := by
  rw [paddedDigits, Nat.ofDigitChars_append, Nat.ofDigitChars_replicate_zero, Nat.mul_zero,
    Nat.ofDigitChars_toDigits (by decide) (by decide)]

/-- The digits in front count for as many places as follow them. -/
theorem ofDigitChars_eq_add (digits : List Char) (start : Nat) :
    Nat.ofDigitChars 10 digits start =
      start * 10 ^ digits.length + Nat.ofDigitChars 10 digits 0 := by
  induction digits generalizing start with
  | nil =>
      simp [Nat.ofDigitChars]
  | cons digit digits inductionHypothesis =>
      rw [Nat.ofDigitChars_cons, Nat.ofDigitChars_cons, inductionHypothesis,
        inductionHypothesis (10 * 0 + _), List.length_cons]
      ring

/-- Digits that follow a number do not make it smaller. -/
theorem le_ofDigitChars (digits : List Char) (start : Nat) :
    start ≤ Nat.ofDigitChars 10 digits start := by
  rw [ofDigitChars_eq_add]
  have grows : start * 1 ≤ start * 10 ^ digits.length :=
    Nat.mul_le_mul_left start (Nat.pow_pos (by decide))
  omega

theorem digitValue_le
    {digit : Char}
    (isDigit : digit.isDigit = true) :
    digit.toNat - '0'.toNat ≤ 9 := by
  simp only [Char.isDigit, Bool.and_eq_true, decide_eq_true_eq, ge_iff_le,
    UInt32.le_iff_toNat_le] at isDigit
  have upper : digit.toNat ≤ 57 := isDigit.2
  have zero : '0'.toNat = 48 := rfl
  omega

/-- Digits are worth less than one more place. -/
theorem ofDigitChars_lt
    {digits : List Char}
    (allDigits : ∀ digit ∈ digits, digit.isDigit = true) :
    Nat.ofDigitChars 10 digits 0 < 10 ^ digits.length := by
  induction digits with
  | nil =>
      decide
  | cons digit digits inductionHypothesis =>
      have rest := inductionHypothesis fun other member => allDigits other (.tail _ member)
      have first := digitValue_le (allDigits digit (.head _))
      rw [Nat.ofDigitChars_cons, ofDigitChars_eq_add, List.length_cons, Nat.pow_succ,
        Nat.mul_zero, Nat.zero_add]
      calc
        (digit.toNat - '0'.toNat) * 10 ^ digits.length + Nat.ofDigitChars 10 digits 0 <
            (digit.toNat - '0'.toNat) * 10 ^ digits.length + 10 ^ digits.length :=
          Nat.add_lt_add_left rest _
        _ = (digit.toNat - '0'.toNat + 1) * 10 ^ digits.length := by
          ring
        _ ≤ 10 * 10 ^ digits.length :=
          Nat.mul_le_mul_right _ (Nat.succ_le_succ first)
        _ = 10 ^ digits.length * 10 :=
          Nat.mul_comm _ _

/-- Digits at the front of a width are worth less than one more place. -/
theorem ofDigitChars_mul_lt
    {digits : List Char}
    (allDigits : ∀ digit ∈ digits, digit.isDigit = true)
    {width : Nat}
    (fits : digits.length ≤ width) :
    Nat.ofDigitChars 10 digits 0 * 10 ^ (width - digits.length) < 10 ^ width := by
  calc
    Nat.ofDigitChars 10 digits 0 * 10 ^ (width - digits.length) <
        10 ^ digits.length * 10 ^ (width - digits.length) :=
      Nat.mul_lt_mul_of_pos_right (ofDigitChars_lt allDigits) (Nat.pow_pos (by decide))
    _ = 10 ^ width := by
      rw [← Nat.pow_add, Nat.add_sub_cancel' fits]

end FieldSearch.Numeral
