import FieldSearch.Proofs.Decimal.Value
import FieldSearch.Proofs.Numeral.Digits
import FieldSearch.Strategy.Scalar
import Mathlib.Data.List.TakeWhile

namespace FieldSearch

namespace Decimal

open Numeral

/-!
# Decimals read back

A decimal has a plain spelling, with as many places as its scale says, and a scientific
one, as its coefficient with a negative exponent. Neither has more digits than a
coefficient can hold, so both are read without rounding, as the decimal with its scale.
The sign of a zero is all that is lost.
-/

/-- A decimal without the sign that a zero may have. -/
def withoutZeroSign (decimal : Decimal) : Decimal :=
  { decimal with negative := decimal.negative && decimal.coefficient != 0 }

/-- The coefficient of a decimal as a number of its own. -/
def whole (decimal : Decimal) : Decimal :=
  { decimal with scale := 0, scale_le := Nat.zero_le maxScale }

/-- The sign of a decimal as it is written. -/
def signChars (decimal : Decimal) : List Char :=
  if decimal.negative then ['-'] else []

/-- The scientific spelling: coefficient and negative exponent. -/
def scientificChars (decimal : Decimal) : List Char :=
  decimal.signChars ++ Nat.toDigits 10 decimal.coefficient ++
    'e' :: '-' :: Nat.toDigits 10 decimal.scale

theorem toRat_withoutZeroSign (decimal : Decimal) :
    decimal.withoutZeroSign.toRat = decimal.toRat := by
  have sameNumerator : decimal.withoutZeroSign.numerator = decimal.numerator := by
    by_cases zero : decimal.coefficient = 0 <;> simp [numerator, withoutZeroSign, zero]
  rw [toRat, toRat, sameNumerator]
  rfl

theorem ofUnsignedZeroParts?_self (decimal : Decimal) :
    ofUnsignedZeroParts? decimal.negative decimal.coefficient decimal.scale =
      some decimal.withoutZeroSign := by
  rw [ofUnsignedZeroParts?, ofParts?, dif_pos ⟨decimal.coefficient_lt, decimal.scale_le⟩]
  rfl

/-! Reading digits, before the point and behind it. -/

/-- The progress after more digits. -/
def Progress.pushAll (progress : Progress) (digits : List Char) : Progress :=
  digits.foldl Progress.push progress

/-- Digits behind the point are places, and those before it are none. -/
theorem Progress.pushAll_eq
    {progress : Progress}
    (beforePoint : progress.pointSeen = false → progress.scale = 0)
    (digits : List Char) :
    progress.pushAll digits = {
      pointSeen := progress.pointSeen
      digitSeen := progress.digitSeen || !digits.isEmpty
      coefficient := Nat.ofDigitChars 10 digits progress.coefficient
      scale := if progress.pointSeen then progress.scale + digits.length else 0
    } := by
  induction digits generalizing progress with
  | nil =>
      obtain ⟨pointSeen, digitSeen, coefficient, scale⟩ := progress
      cases pointSeen with
      | false =>
          obtain rfl := beforePoint rfl
          simp [pushAll]
      | true =>
          simp [pushAll]
  | cons digit digits inductionHypothesis =>
      have afterDigit : progress.pushAll (digit :: digits) =
          (progress.push digit).pushAll digits := rfl
      rw [afterDigit, inductionHypothesis (by simp_all [push]), Nat.ofDigitChars_cons,
        Nat.mul_comm 10]
      cases pointSeen : progress.pointSeen with
      | false =>
          simp [push, pointSeen]
      | true =>
          simp [push, pointSeen, Nat.add_assoc, Nat.add_comm 1]

/-- A digit is taken in as long as there is room for a place and for its value. -/
theorem readFrom_cons_digit
    {progress : Progress}
    {digit : Char}
    (room : progress.scale < maxScale)
    (isDigit : digit.isDigit = true)
    (fits : (progress.push digit).coefficient < coefficientLimit)
    (rest : List Char) :
    readFrom progress (digit :: rest) = readFrom (progress.push digit) rest := by
  rw [readFrom, if_neg (Nat.not_le.mpr room), if_pos isDigit, if_pos fits]

/-- Digits are taken in one by one; the coefficient grows, so the last value decides. -/
theorem readFrom_append_digits
    {progress : Progress}
    {digits : List Char}
    (beforePoint : progress.pointSeen = false → progress.scale = 0)
    (behindPoint : progress.pointSeen = true → progress.scale + digits.length ≤ maxScale)
    (allDigits : ∀ digit ∈ digits, digit.isDigit = true)
    (fits : Nat.ofDigitChars 10 digits progress.coefficient < coefficientLimit)
    (rest : List Char) :
    readFrom progress (digits ++ rest) = readFrom (progress.pushAll digits) rest := by
  induction digits generalizing progress with
  | nil =>
      rfl
  | cons digit digits inductionHypothesis =>
      rw [List.forall_mem_cons] at allDigits
      have room : progress.scale < maxScale := by
        cases seen : progress.pointSeen with
        | false =>
            rw [beforePoint seen]
            decide
        | true =>
            have places := behindPoint seen
            rw [List.length_cons] at places
            omega
      rw [Nat.ofDigitChars_cons, Nat.mul_comm] at fits
      have stepFits : (progress.push digit).coefficient < coefficientLimit :=
        (le_ofDigitChars digits (progress.push digit).coefficient).trans_lt fits
      rw [List.cons_append, readFrom_cons_digit room allDigits.1 stepFits]
      refine inductionHypothesis ?_ ?_ allDigits.2 fits
      · intro seen
        have seenBefore : progress.pointSeen = false := seen
        simp [Progress.push, seenBefore]
      · intro seen
        have seenBefore : progress.pointSeen = true := seen
        have places := behindPoint seenBefore
        rw [List.length_cons] at places
        simp only [Progress.push, seenBefore, if_true]
        omega

/-! The plain spelling. -/

theorem paddedDigits_eq (decimal : Decimal) :
    decimal.paddedDigits = Numeral.paddedDigits (decimal.scale + 1) decimal.coefficient :=
  rfl

/-- There is a digit before the point, and behind it there are as many as the scale says. -/
theorem exists_digits (decimal : Decimal) :
    ∃ wholeDigits places,
      decimal.toChars =
          decimal.signChars ++ wholeDigits ++
            (if decimal.scale = 0 then [] else '.' :: places) ∧
        wholeDigits ≠ [] ∧
          places.length = decimal.scale ∧
            (∀ digit ∈ wholeDigits ++ places, digit.isDigit = true) ∧
              Nat.ofDigitChars 10 (wholeDigits ++ places) 0 = decimal.coefficient := by
  have longEnough : decimal.scale + 1 ≤ decimal.paddedDigits.length := by
    rw [paddedDigits, List.length_append, List.length_replicate]
    omega
  refine ⟨_, _, rfl, ?_, ?_, ?_, ?_⟩
  · rw [← List.length_pos_iff, List.length_take]
    omega
  · rw [List.length_drop]
    omega
  · rw [List.take_append_drop, paddedDigits_eq]
    exact fun _ => isDigit_of_mem_paddedDigits
  · rw [List.take_append_drop, paddedDigits_eq, ofDigitChars_paddedDigits]

/-- The sign is split off, for what follows it starts with a digit. -/
theorem splitSign_signChars
    (decimal : Decimal)
    {digits : List Char}
    (notEmpty : digits ≠ [])
    (allDigits : ∀ digit ∈ digits, digit.isDigit = true)
    (rest : List Char) :
    splitSign (decimal.signChars ++ digits ++ rest) = (decimal.negative, digits ++ rest) := by
  cases digits with
  | nil =>
      exact absurd rfl notEmpty
  | cons first digits =>
      have isDigit := allDigits first (.head _)
      unfold signChars
      cases decimal.negative with
      | true =>
          rfl
      | false =>
          simp only [Bool.false_eq_true, if_false, List.nil_append, List.cons_append, splitSign]
          split
          · next isMinus =>
              cases isMinus
              cases isDigit
          · next isPlus =>
              cases isPlus
              cases isDigit
          · rfl

/-- What follows a sign and digits is read behind the sign. -/
theorem readPlain_signChars
    (decimal : Decimal)
    {digits : List Char}
    (notEmpty : digits ≠ [])
    (allDigits : ∀ digit ∈ digits, digit.isDigit = true)
    (rest : List Char) :
    readPlain (decimal.signChars ++ digits ++ rest) =
      (readFrom {} (digits ++ rest)).bind fun (coefficient, scale) =>
        match ofUnsignedZeroParts? decimal.negative coefficient scale with
        | some number => .ok number
        | none => .error .tooManyDigits := by
  rw [readPlain, splitSign_signChars decimal notEmpty allDigits]
  · rfl
  · intro isEmpty
    simp [notEmpty] at isEmpty

theorem readFrom_nil
    {progress : Progress}
    (seen : progress.digitSeen = true) :
    readFrom progress [] = .ok (progress.coefficient, progress.scale) := by
  rw [readFrom, if_pos seen]

theorem readFrom_point
    {progress : Progress}
    (beforePoint : progress.pointSeen = false)
    (room : progress.scale < maxScale)
    (rest : List Char) :
    readFrom progress ('.' :: rest) = readFrom { progress with pointSeen := true } rest := by
  rw [readFrom, if_neg (Nat.not_le.mpr room)]
  simp [beforePoint]

/-- Digits before a point are read as a coefficient without places. -/
theorem readFrom_whole
    {digits : List Char}
    (notEmpty : digits ≠ [])
    (allDigits : ∀ digit ∈ digits, digit.isDigit = true)
    (fits : Nat.ofDigitChars 10 digits 0 < coefficientLimit)
    (rest : List Char) :
    readFrom {} (digits ++ rest) =
      readFrom { digitSeen := true, coefficient := Nat.ofDigitChars 10 digits 0 } rest := by
  have someDigit : digits.isEmpty = false := by simpa using notEmpty
  rw [readFrom_append_digits (fun _ => rfl) (by simp) allDigits fits,
    Progress.pushAll_eq (fun _ => rfl), someDigit]
  rfl

/-- Digits with a point among them are read as a coefficient with places. -/
theorem readFrom_places
    {wholeDigits places : List Char}
    (notEmpty : wholeDigits ≠ [])
    (room : places.length ≤ maxScale)
    (allDigits : ∀ digit ∈ wholeDigits ++ places, digit.isDigit = true)
    (fits : Nat.ofDigitChars 10 (wholeDigits ++ places) 0 < coefficientLimit) :
    readFrom {} (wholeDigits ++ '.' :: places) =
      .ok (Nat.ofDigitChars 10 (wholeDigits ++ places) 0, places.length) := by
  rw [List.forall_mem_append] at allDigits
  rw [Nat.ofDigitChars_append] at fits ⊢
  have wholeFits : Nat.ofDigitChars 10 wholeDigits 0 < coefficientLimit :=
    (le_ofDigitChars places _).trans_lt fits
  have roomBefore : 0 < maxScale := by decide
  rw [readFrom_whole notEmpty allDigits.1 wholeFits, readFrom_point rfl roomBefore,
    ← List.append_nil places,
    readFrom_append_digits (by simp) (by simpa using room) allDigits.2 fits,
    Progress.pushAll_eq (by simp), readFrom_nil (by simp)]
  simp

/-- What is written of a decimal in plain notation is read as the decimal. -/
theorem readPlain_toChars (decimal : Decimal) :
    readPlain decimal.toChars = .ok decimal.withoutZeroSign := by
  obtain ⟨wholeDigits, places, isSpelling, notEmpty, length, allDigits, isCoefficient⟩ :=
    decimal.exists_digits
  have fits : Nat.ofDigitChars 10 (wholeDigits ++ places) 0 < coefficientLimit := by
    rw [isCoefficient]
    exact decimal.coefficient_lt
  have read :
      readFrom {} (wholeDigits ++ if decimal.scale = 0 then [] else '.' :: places) =
        .ok (decimal.coefficient, decimal.scale) := by
    by_cases noPlaces : decimal.scale = 0
    · obtain rfl : places = [] := List.eq_nil_of_length_eq_zero (length.trans noPlaces)
      rw [List.append_nil] at allDigits fits isCoefficient
      rw [if_pos noPlaces, readFrom_whole notEmpty allDigits fits, readFrom_nil rfl,
        isCoefficient, noPlaces]
    · have room : places.length ≤ maxScale := length.trans_le decimal.scale_le
      rw [if_neg noPlaces, readFrom_places notEmpty room allDigits fits, isCoefficient, length]
  rw [isSpelling, readPlain_signChars decimal notEmpty
    fun digit member => allDigits digit (List.mem_append_left _ member), read]
  simp only [Except.bind, decimal.ofUnsignedZeroParts?_self]

/-! The scientific spelling. -/

/-- A coefficient on its own is written in its digits. -/
theorem toChars_whole (decimal : Decimal) :
    decimal.whole.toChars = decimal.signChars ++ Nat.toDigits 10 decimal.coefficient := by
  have noPadding : 1 - (Nat.toDigits 10 decimal.coefficient).length = 0 :=
    Nat.sub_eq_zero_of_le Nat.length_toDigits_pos
  have padded : decimal.whole.paddedDigits = Nat.toDigits 10 decimal.coefficient := by
    simp [Decimal.paddedDigits, whole, noPadding]
  calc
    decimal.whole.toChars =
        decimal.signChars ++
          decimal.whole.paddedDigits.take (decimal.whole.paddedDigits.length - 0) ++ [] := rfl
    _ = decimal.signChars ++ Nat.toDigits 10 decimal.coefficient := by
      rw [padded, Nat.sub_zero, List.take_length, List.append_nil]

/-- The mark of the exponent is no character of plain notation. -/
theorem readPlain_scientificChars (decimal : Decimal) :
    readPlain decimal.scientificChars = .error .unknownCharacter := by
  have fits : Nat.ofDigitChars 10 (Nat.toDigits 10 decimal.coefficient) 0 < coefficientLimit := by
    rw [Nat.ofDigitChars_ten_toDigits]
    exact decimal.coefficient_lt
  rw [scientificChars,
    readPlain_signChars decimal Nat.toDigits_ne_nil (fun _ => isDigit_of_mem_toDigits),
    readFrom_whole Nat.toDigits_ne_nil (fun _ => isDigit_of_mem_toDigits) fits]
  rfl

/-- No character in front of the exponent marks one. -/
theorem isExponentMark_eq_false
    {decimal : Decimal}
    {character : Char}
    (member : character ∈ decimal.signChars ++ Nat.toDigits 10 decimal.coefficient) :
    isExponentMark character = false := by
  rcases List.mem_append.mp member with isSign | isDigit
  · have isMinus : character = '-' := by
      unfold signChars at isSign
      split at isSign
      · exact List.mem_singleton.mp isSign
      · cases isSign
    rw [isMinus]
    rfl
  · have isDigit := isDigit_of_mem_toDigits isDigit
    rw [Bool.eq_false_iff]
    intro isMark
    rcases Bool.or_eq_true_iff.mp isMark with isMark | isMark <;>
      · rw [beq_iff_eq.mp isMark] at isDigit
        cases isDigit

theorem readExponent?_toDigits
    {exponent : Nat}
    (small : exponent < Nat.pow 2 32) :
    readExponent? (Nat.toDigits 10 exponent) = some exponent := by
  have allDigits : (Nat.toDigits 10 exponent).all Char.isDigit = true :=
    List.all_eq_true.mpr fun _ => isDigit_of_mem_toDigits
  have someDigit : (Nat.toDigits 10 exponent).isEmpty = false := by
    simp [Nat.toDigits_ne_nil]
  rw [readExponent?]
  · simp only [someDigit, allDigits, Nat.ofDigitChars_ten_toDigits, if_pos small]
    rfl
  · intro rest isPlus
    rw [isPlus] at allDigits
    cases allDigits

/-- The coefficient is read in front of the mark of the exponent, and the scale behind it. -/
theorem readScientific?_scientificChars (decimal : Decimal) :
    readScientific? decimal.scientificChars = some decimal.withoutZeroSign := by
  have noMark :
      ∀ character ∈ decimal.signChars ++ Nat.toDigits 10 decimal.coefficient,
        (!isExponentMark character) = true := by
    intro character member
    rw [isExponentMark_eq_false member]
    rfl
  have base :
      decimal.scientificChars.takeWhile (!isExponentMark ·) =
        decimal.whole.toChars := by
    rw [scientificChars, List.takeWhile_append_of_pos noMark, toChars_whole]
    simp [isExponentMark]
  have exponent :
      decimal.scientificChars.dropWhile (!isExponentMark ·) =
        'e' :: '-' :: Nat.toDigits 10 decimal.scale := by
    rw [scientificChars, List.dropWhile_append_of_pos noMark]
    rfl
  have readScale : readExponent? (Nat.toDigits 10 decimal.scale) = some decimal.scale :=
    readExponent?_toDigits (decimal.scale_le.trans_lt (by decide))
  have shifted :
      shiftRight? decimal.whole.withoutZeroSign decimal.scale = some decimal.withoutZeroSign := by
    have noPlaces : decimal.whole.withoutZeroSign.scale + decimal.scale = decimal.scale :=
      Nat.zero_add decimal.scale
    rw [shiftRight?, noPlaces, if_neg (Nat.not_lt.mpr decimal.scale_le), if_pos decimal.scale_le]
    exact decimal.ofUnsignedZeroParts?_self
  rw [readScientific?, base, exponent, readPlain_toChars]
  simp only [Except.toOption, Option.bind_eq_bind, Option.bind_some, readScale, shifted]

/-- What is written of a decimal is read as the decimal, with its scale. -/
theorem ofString?_toString (decimal : Decimal) :
    ofString? (toString decimal) = some decimal.withoutZeroSign := by
  rw [ofString?]
  simp only [toString, String.toList_ofList, decimal.readPlain_toChars]
  rfl

/-- The scientific spelling is read as the same decimal. -/
theorem ofString?_scientificChars (decimal : Decimal) :
    ofString? (String.ofList decimal.scientificChars) = some decimal.withoutZeroSign := by
  rw [ofString?]
  simp only [String.toList_ofList, decimal.readPlain_scientificChars,
    decimal.readScientific?_scientificChars]
  rfl

end Decimal

namespace Strategy

/-- The guard for the mark of an exponent refuses nothing that is in scientific notation. -/
theorem readDecimal_eq_ok_iff {token : String} {number : Decimal} :
    readDecimal token = .ok number ↔ Decimal.ofString? token = some number := by
  unfold readDecimal Decimal.ofString?
  cases plain : Decimal.readPlain token.toList with
  | ok found =>
      simp [plain, Except.toOption]
  | error cause =>
      cases scientific : Decimal.readScientific? token.toList with
      | none =>
          simp [plain, scientific, Except.toOption]
      | some found =>
          have marked : token.toList.any Decimal.isExponentMark = true := by
            by_contra unmarked
            have noMark : token.toList.dropWhile (!Decimal.isExponentMark ·) = [] := by
              simpa [List.dropWhile_eq_nil_iff] using unmarked
            simp [Decimal.readScientific?, noMark] at scientific
          simp only [plain, scientific, if_pos marked, Except.toOption]
          simp

theorem decimal_read
    (type : ValueType)
    {text : String}
    {number : Decimal}
    (read : Decimal.ofString? text = some number) :
    Strategy.decimal.read type text = .ok (.scalar (.decimal number)) := by
  simp only [decimal, elementwise, readDecimal_eq_ok_iff.mpr read]

/--
The plain spelling of a decimal and the scientific one of its coefficient and scale are
read alike, as a decimal of the same scale that denotes the same number.
-/
theorem decimal_reads_spellings (type : ValueType) (number : Decimal) :
    ∃ readBack : Decimal,
      Strategy.decimal.read type (Scalar.decimal number).toText =
          .ok (.scalar (.decimal readBack)) ∧
        Strategy.decimal.read type (String.ofList number.scientificChars) =
            .ok (.scalar (.decimal readBack)) ∧
          readBack.toRat = number.toRat ∧ readBack.scale = number.scale :=
  ⟨number.withoutZeroSign,
    decimal_read type number.ofString?_toString,
    decimal_read type number.ofString?_scientificChars,
    number.toRat_withoutZeroSign,
    rfl⟩

end Strategy

end FieldSearch
