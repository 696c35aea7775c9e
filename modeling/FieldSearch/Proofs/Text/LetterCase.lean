import Mathlib
import FieldSearch.Text.Case

namespace FieldSearch.Text

/-!
# Lower case forms of characters

What name matching and escaping rely on in the lower case form of a single
character: it is never empty, it does not tell letters apart that ASCII casing
identifies, and an ASCII character that is not a letter is part of the lower
case form of no character but itself.
-/

/-- ASCII characters other than letters and the null character. -/
def isAsciiMark (character : Char) : Bool :=
  (1 ≤ character.toNat && character.toNat ≤ 64) ||
    (91 ≤ character.toNat && character.toNat ≤ 96) ||
      (123 ≤ character.toNat && character.toNat ≤ 127)

theorem isAsciiMark_iff (character : Char) :
    isAsciiMark character = true ↔
      (1 ≤ character.toNat ∧ character.toNat ≤ 64) ∨
        (91 ≤ character.toNat ∧ character.toNat ≤ 96) ∨
          (123 ≤ character.toNat ∧ character.toNat ≤ 127) := by
  simp [isAsciiMark, or_assoc]

theorem toNat_of_asciiCapital
    {character : Char}
    (capital : 'A' ≤ character ∧ character ≤ 'Z') :
    65 ≤ character.toNat ∧ character.toNat ≤ 90 := by
  simpa [Char.le_def, UInt32.le_iff_toNat_le] using capital

theorem toNat_lowered_asciiCapital
    {character : Char}
    (capital : 'A' ≤ character ∧ character ≤ 'Z') :
    (Char.ofNat (character.toNat + 32)).toNat = character.toNat + 32 := by
  have bounds := toNat_of_asciiCapital capital
  have validPoint : (character.toNat + 32).isValidChar := by
    left
    omega
  rw [Char.toNat_ofNat, if_pos validPoint]

/-- ASCII lower casing keeps the two halves of the code space apart. -/
theorem asciiLower_lt_iff (character : Char) :
    (asciiLower character).toNat < 128 ↔ character.toNat < 128 := by
  unfold asciiLower
  split
  · next capital =>
      have bounds := toNat_of_asciiCapital capital
      rw [toNat_lowered_asciiCapital capital]
      omega
  · exact Iff.rfl

theorem asciiLower_of_le
    {character : Char}
    (beyond : 128 ≤ character.toNat) :
    asciiLower character = character := by
  unfold asciiLower
  split
  · next capital =>
      have bounds := toNat_of_asciiCapital capital
      omega
  · rfl

/-- ASCII lower casing neither changes a mark nor makes one. -/
theorem asciiLower_eq_mark_iff
    {character mark : Char}
    (isMark : isAsciiMark mark = true) :
    asciiLower character = mark ↔ character = mark := by
  unfold asciiLower
  split
  · next capital =>
      have bounds := toNat_of_asciiCapital capital
      have markPoint := (isAsciiMark_iff mark).mp isMark
      rw [← Char.toNat_inj, ← Char.toNat_inj, toNat_lowered_asciiCapital capital]
      omega
  · exact Iff.rfl

theorem lowerForm_ne_nil (character : Char) :
    lowerForm character ≠ [] := by
  unfold lowerForm
  split
  · simp
  · split <;> simp

/-- Characters that ASCII casing identifies have one lower case form. -/
theorem lowerForm_eq_of_asciiLower_eq
    {left right : Char}
    (same : asciiLower left = asciiLower right) :
    lowerForm left = lowerForm right := by
  have sameHalf : left.toNat < 128 ↔ right.toNat < 128 := by
    rw [← asciiLower_lt_iff left, same, asciiLower_lt_iff right]
  by_cases ascii : left.toNat < 128
  · simp only [lowerForm, ascii, sameHalf.mp ascii, ↓reduceIte, same]
  · have beyondRight : ¬ right.toNat < 128 :=
      fun inside => ascii (sameHalf.mpr inside)
    rw [asciiLower_of_le (Nat.le_of_not_lt ascii),
      asciiLower_of_le (Nat.le_of_not_lt beyondRight)] at same
    rw [same]

/-- A mapping of ASCII alone, or one whose images are letters or beyond ASCII. -/
def ShiftRule.avoidsMarks (rule : ShiftRule) : Bool :=
  rule.source.last < 128 ||
    128 ≤ rule.source.first + rule.distance ||
      (97 ≤ rule.source.first + rule.distance && rule.source.last + rule.distance ≤ 122)

/-- Such a mapping takes no character beyond ASCII to a mark. -/
theorem ShiftRule.image?_ne_mark
    {rule : ShiftRule}
    (avoids : rule.avoidsMarks = true)
    {mark : Char}
    (isMark : isAsciiMark mark = true)
    {point : Nat}
    (beyond : 128 ≤ point) :
    rule.image? point ≠ some mark.toNat := by
  intro mapped
  have markPoint := (isAsciiMark_iff mark).mp isMark
  simp only [ShiftRule.avoidsMarks, Bool.or_eq_true, Bool.and_eq_true,
    decide_eq_true_eq] at avoids
  simp only [ShiftRule.image?, Run.contains, Bool.and_eq_true, decide_eq_true_eq,
    Option.ite_none_right_eq_some, Option.some.injEq] at mapped
  obtain ⟨⟨⟨atLeastFirst, atMostLast⟩, -⟩, imageIsMark⟩ := mapped
  omega

theorem lowerRules_avoidMarks :
    lowerRules.all ShiftRule.avoidsMarks = true := by
  decide

/-- No character beyond ASCII is lower cased to an ASCII mark. -/
theorem shifted_lowerRules_ne_mark
    {character mark : Char}
    (isMark : isAsciiMark mark = true)
    (beyond : 128 ≤ character.toNat) :
    shifted lowerRules character ≠ mark := by
  have markPoint := (isAsciiMark_iff mark).mp isMark
  intro mapped
  unfold shifted at mapped
  split at mapped
  · next point found =>
      obtain ⟨rule, member, image⟩ := List.exists_of_findSome?_eq_some found
      have avoids : rule.avoidsMarks = true :=
        List.all_eq_true.mp lowerRules_avoidMarks rule member
      have pointIsMark : point = mark.toNat := by
        have onPoints := congrArg Char.toNat mapped
        rw [Char.toNat_ofNat] at onPoints
        split at onPoints
        · exact onPoints
        · omega
      exact ShiftRule.image?_ne_mark avoids isMark beyond (pointIsMark ▸ image)
  · subst mapped
    omega

/-- An ASCII mark is part of the lower case form of no character but itself. -/
theorem mark_mem_lowerForm_iff
    {character mark : Char}
    (isMark : isAsciiMark mark = true) :
    mark ∈ lowerForm character ↔ character = mark := by
  unfold lowerForm
  split
  · rw [List.mem_singleton, eq_comm, asciiLower_eq_mark_iff isMark]
  · next notAscii =>
      have beyond : 128 ≤ character.toNat := Nat.le_of_not_lt notAscii
      have other : character ≠ mark := by
        rintro rfl
        have markPoint := (isAsciiMark_iff character).mp isMark
        omega
      split
      · have notLetter : mark ≠ 'i' := by
          rintro rfl
          exact absurd isMark (by decide)
        have notDot : mark ≠ '\u0307' := by
          rintro rfl
          exact absurd isMark (by decide)
        simp [notLetter, notDot, other]
      · simp [other, (shifted_lowerRules_ne_mark isMark beyond).symm]

theorem lowerForm_mark
    {mark : Char}
    (isMark : isAsciiMark mark = true) :
    lowerForm mark = [mark] := by
  have markPoint := (isAsciiMark_iff mark).mp isMark
  have ascii : mark.toNat < 128 := by
    omega
  simp only [lowerForm, ascii, ↓reduceIte, (asciiLower_eq_mark_iff isMark).mpr rfl]

/-! ASCII letters in both cases. -/

theorem toNat_asciiLower (character : Char) :
    (asciiLower character).toNat =
      if 65 ≤ character.toNat ∧ character.toNat ≤ 90 then
        character.toNat + 32
      else
        character.toNat := by
  have capitalIff :
      ('A' ≤ character ∧ character ≤ 'Z') ↔ 65 ≤ character.toNat ∧ character.toNat ≤ 90 := by
    simp [Char.le_def, UInt32.le_iff_toNat_le]
  unfold asciiLower
  by_cases capital : 'A' ≤ character ∧ character ≤ 'Z'
  · rw [if_pos capital, if_pos (capitalIff.mp capital), toNat_lowered_asciiCapital capital]
  · rw [if_neg capital, if_neg (mt capitalIff.mpr capital)]

theorem toNat_asciiUpper (character : Char) :
    (asciiUpper character).toNat =
      if 97 ≤ character.toNat ∧ character.toNat ≤ 122 then
        character.toNat - 32
      else
        character.toNat := by
  have smallIff :
      ('a' ≤ character ∧ character ≤ 'z') ↔ 97 ≤ character.toNat ∧ character.toNat ≤ 122 := by
    simp [Char.le_def, UInt32.le_iff_toNat_le]
  unfold asciiUpper
  by_cases small : 'a' ≤ character ∧ character ≤ 'z'
  · have bounds := smallIff.mp small
    have validPoint : (character.toNat - 32).isValidChar := by
      left
      omega
    rw [if_pos small, if_pos bounds, Char.toNat_ofNat, if_pos validPoint]
  · rw [if_neg small, if_neg (mt smallIff.mpr small)]

/-- Raising ASCII letters does not change what they are lowered to. -/
theorem asciiLower_asciiUpper (character : Char) :
    asciiLower (asciiUpper character) = asciiLower character := by
  rw [← Char.toNat_inj, toNat_asciiLower, toNat_asciiLower, toNat_asciiUpper]
  split_ifs <;> omega

/-- Lowering ASCII letters does not change what they are raised to. -/
theorem asciiUpper_asciiLower (character : Char) :
    asciiUpper (asciiLower character) = asciiUpper character := by
  rw [← Char.toNat_inj, toNat_asciiUpper, toNat_asciiUpper, toNat_asciiLower]
  split_ifs <;> omega

/-- Raising ASCII letters neither changes a mark nor makes one. -/
theorem asciiUpper_eq_mark_iff
    {character mark : Char}
    (isMark : isAsciiMark mark = true) :
    asciiUpper character = mark ↔ character = mark := by
  have markPoint := (isAsciiMark_iff mark).mp isMark
  rw [← Char.toNat_inj, ← Char.toNat_inj, toNat_asciiUpper]
  split <;> omega

/-- The ASCII capital letters have a run of their own among the capital letters. -/
theorem isUppercase_of_asciiCapital
    {character : Char}
    (capital : 65 ≤ character.toNat ∧ character.toNat ≤ 90) :
    isUppercase character = true := by
  have listed : (⟨65, 90, 1⟩ : Run) ∈ uppercaseRuns := List.mem_cons_self
  apply List.any_eq_true.mpr
  refine ⟨_, listed, ?_⟩
  simp [Run.contains, capital, Nat.mod_one]

theorem uppercaseRuns_avoidSmall :
    uppercaseRuns.all (fun run => run.last < 97 || 122 < run.first) = true := by
  decide

/-- No ASCII small letter is a capital one. -/
theorem isUppercase_of_asciiSmall
    {character : Char}
    (small : 97 ≤ character.toNat ∧ character.toNat ≤ 122) :
    isUppercase character = false := by
  apply List.any_eq_false.mpr
  intro run member
  have avoids := List.all_eq_true.mp uppercaseRuns_avoidSmall run member
  simp only [Bool.or_eq_true, decide_eq_true_eq] at avoids
  simp only [Run.contains, Bool.and_eq_true, decide_eq_true_eq, not_and]
  omega

/-- Raising ASCII letters keeps capital ones, whatever alphabet they are from. -/
theorem asciiUpper_of_isUppercase
    {character : Char}
    (capital : isUppercase character = true) :
    asciiUpper character = character := by
  rw [← Char.toNat_inj, toNat_asciiUpper]
  split
  · next small =>
      rw [isUppercase_of_asciiSmall small] at capital
      cases capital
  · rfl

/-- Lowering ASCII letters keeps those that are no capital ones. -/
theorem asciiLower_of_not_isUppercase
    {character : Char}
    (notCapital : isUppercase character = false) :
    asciiLower character = character := by
  rw [← Char.toNat_inj, toNat_asciiLower]
  split
  · next capital =>
      rw [isUppercase_of_asciiCapital capital] at notCapital
      cases notCapital
  · rfl

end FieldSearch.Text
