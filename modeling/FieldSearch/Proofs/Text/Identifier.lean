import FieldSearch.Proofs.Text.LetterCase
import FieldSearch.Text.Identifier

namespace FieldSearch.Text

/-!
# Characters of identifiers

Every ASCII letter may start an identifier, so raising ASCII letters does not change
what characters are good for. An underscore may stand anywhere in an identifier, and
neither hyphens nor dots may.
-/

/-- A property of characters that every ASCII letter has. -/
def HoldsOfLetters (property : Char → Bool) : Prop :=
  ∀ character : Char,
    (65 ≤ character.toNat ∧ character.toNat ≤ 90) ∨
        (97 ≤ character.toNat ∧ character.toNat ≤ 122) →
      property character = true

/-- Raising ASCII letters keeps every property that all of them have. -/
theorem HoldsOfLetters.asciiUpper_eq
    {property : Char → Bool}
    (holds : HoldsOfLetters property)
    (character : Char) :
    property (asciiUpper character) = property character := by
  by_cases small : 97 ≤ character.toNat ∧ character.toNat ≤ 122
  · have raised : 65 ≤ (asciiUpper character).toNat ∧ (asciiUpper character).toNat ≤ 90 := by
      rw [toNat_asciiUpper, if_pos small]
      omega
    rw [holds character (.inr small), holds (asciiUpper character) (.inl raised)]
  · have unchanged : asciiUpper character = character := by
      rw [← Char.toNat_inj, toNat_asciiUpper, if_neg small]
    rw [unchanged]

theorem holdsOfLetters_isIdentifierStart : HoldsOfLetters isIdentifierStart := by
  intro character letter
  apply List.any_eq_true.mpr
  rcases letter with capital | small
  · refine ⟨⟨65, 90, 1⟩, List.mem_cons_self, ?_⟩
    simp [Run.contains, capital, Nat.mod_one]
  · refine ⟨⟨97, 122, 1⟩, List.mem_cons_of_mem _ List.mem_cons_self, ?_⟩
    simp [Run.contains, small, Nat.mod_one]

theorem holdsOfLetters_isIdentifierContinue : HoldsOfLetters isIdentifierContinue := by
  intro character letter
  rw [isIdentifierContinue, holdsOfLetters_isIdentifierStart character letter, Bool.true_or]

theorem isIdentifierContinue_underscore : isIdentifierContinue '_' = true := by
  have listed : (⟨95, 95, 1⟩ : Run) ∈ identifierTailRuns :=
    List.mem_cons_of_mem _ List.mem_cons_self
  have inTail : inRuns identifierTailRuns '_' = true :=
    List.any_eq_true.mpr ⟨_, listed, by decide⟩
  rw [isIdentifierContinue, inTail, Bool.or_true]

/-- The first digit comes before all other characters of identifiers. -/
theorem identifierRuns_start_at_digits :
    (identifierStartRuns ++ identifierTailRuns).all (fun run => 48 ≤ run.first) = true := by
  decide +kernel

theorem toNat_of_isIdentifierContinue
    {character : Char}
    (continues : isIdentifierContinue character = true) :
    48 ≤ character.toNat := by
  have inEither : inRuns (identifierStartRuns ++ identifierTailRuns) character = true := by
    rw [inRuns, List.any_append]
    exact continues
  obtain ⟨run, listed, within⟩ := List.any_eq_true.mp inEither
  have start := List.all_eq_true.mp identifierRuns_start_at_digits run listed
  simp only [decide_eq_true_eq] at start
  simp only [Run.contains, Bool.and_eq_true, decide_eq_true_eq] at within
  exact Nat.le_trans start within.1.1

/-- Neither hyphens nor dots are characters of identifiers. -/
theorem ne_hyphen_dot_of_isIdentifierContinue
    {character : Char}
    (continues : isIdentifierContinue character = true) :
    character ≠ '-' ∧ character ≠ '.' := by
  have start := toNat_of_isIdentifierContinue continues
  constructor <;>
    · rintro rfl
      exact absurd start (by decide)

/-- Every character of an identifier may continue one. -/
theorem isIdentifierContinue_of_isIdentifierChars
    {characters : List Char}
    (isIdentifier : isIdentifierChars characters = true)
    {character : Char}
    (member : character ∈ characters) :
    isIdentifierContinue character = true := by
  cases characters with
  | nil =>
      cases member
  | cons first rest =>
      simp only [isIdentifierChars, Bool.and_eq_true, Bool.or_eq_true, beq_iff_eq] at isIdentifier
      obtain ⟨isUnderscore | starts, restContinues⟩ := isIdentifier
      all_goals rcases List.mem_cons.mp member with isFirst | inRest
      · rw [isFirst, isUnderscore]
        exact isIdentifierContinue_underscore
      · exact List.all_eq_true.mp restContinues character inRest
      · rw [isFirst, isIdentifierContinue, starts, Bool.true_or]
      · exact List.all_eq_true.mp restContinues character inRest

end FieldSearch.Text
