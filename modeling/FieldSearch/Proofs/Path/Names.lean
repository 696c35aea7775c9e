import FieldSearch.Path
import FieldSearch.Proofs.Text.LetterCase

namespace FieldSearch

open Text

/-!
# Matching of names

Two names match exactly if the lower case forms of their characters, one after
another, are the same: comparing up to ASCII case first does not change the
answer. Matching is therefore an equivalence, and names that match have the
same marks, dots among them.
-/

/-- Matching compares the lower case forms of the characters. -/
theorem sameLetters_iff (left right : String) :
    sameLetters left right = true ↔
      left.toList.flatMap lowerForm = right.toList.flatMap lowerForm := by
  simp [sameLetters]

theorem flatMap_lowerForm_of_asciiLower :
    ∀ {left right : List Char},
      left.map asciiLower = right.map asciiLower →
      left.flatMap lowerForm = right.flatMap lowerForm
  | [], [], _ => rfl
  | [], _ :: _, same => by
      simp at same
  | _ :: _, [], same => by
      simp at same
  | first :: rest, other :: others, same => by
      simp only [List.map_cons, List.cons.injEq] at same
      rw [List.flatMap_cons, List.flatMap_cons,
        lowerForm_eq_of_asciiLower_eq same.1,
        flatMap_lowerForm_of_asciiLower same.2]

/-- The comparison up to ASCII case accepts nothing that the other one rejects. -/
theorem namesMatch_eq_sameLetters (declared requested : String) :
    namesMatch declared requested = sameLetters declared requested := by
  unfold namesMatch
  cases ascii : sameAsciiLetters declared requested with
  | false =>
      rfl
  | true =>
      have same : sameLetters declared requested = true := by
        rw [sameLetters_iff]
        exact flatMap_lowerForm_of_asciiLower (by simpa [sameAsciiLetters] using ascii)
      rw [same]
      rfl

@[simp] theorem sameLetters_refl (name : String) :
    sameLetters name name = true := by
  rw [sameLetters_iff]

theorem sameLetters_comm (left right : String) :
    sameLetters left right = sameLetters right left := by
  simp only [sameLetters, Bool.beq_comm]

/-- Names that match are matched by the same names. -/
theorem sameLetters_congr_right
    {left right : String}
    (same : sameLetters left right = true)
    (name : String) :
    sameLetters name left = sameLetters name right := by
  rw [sameLetters_iff] at same
  simp only [sameLetters, same]

theorem sameLetters_trans
    {first second third : String}
    (sameStart : sameLetters first second = true)
    (sameEnd : sameLetters second third = true) :
    sameLetters first third = true := by
  rw [← sameLetters_congr_right sameEnd]
  exact sameStart

theorem count_flatMap_lowerForm
    {mark : Char}
    (isMark : isAsciiMark mark = true)
    (characters : List Char) :
    (characters.flatMap lowerForm).count mark = characters.count mark := by
  induction characters with
  | nil =>
      rfl
  | cons character rest inductionHypothesis =>
      rw [List.flatMap_cons, List.count_append, inductionHypothesis]
      by_cases here : character = mark
      · subst here
        rw [lowerForm_mark isMark, List.count_singleton_self, List.count_cons_self,
          Nat.add_comm]
      · have absent : mark ∉ lowerForm character :=
          fun member => here ((mark_mem_lowerForm_iff isMark).mp member)
        rw [List.count_eq_zero_of_not_mem absent, List.count_cons_of_ne here,
          Nat.zero_add]

/-- Names that match have each mark equally often. -/
theorem count_eq_of_sameLetters
    {mark : Char}
    (isMark : isAsciiMark mark = true)
    {left right : String}
    (same : sameLetters left right = true) :
    left.toList.count mark = right.toList.count mark := by
  rw [← count_flatMap_lowerForm isMark left.toList, (sameLetters_iff left right).mp same,
    count_flatMap_lowerForm isMark right.toList]

theorem flatMap_lowerForm_eq_nil_iff (characters : List Char) :
    characters.flatMap lowerForm = [] ↔ characters = [] := by
  cases characters with
  | nil =>
      simp
  | cons character rest =>
      simp [lowerForm_ne_nil character]

/-- Names that match are both empty or both not. -/
theorem isEmpty_eq_of_sameLetters
    {left right : String}
    (same : sameLetters left right = true) :
    left.isEmpty = right.isEmpty := by
  have emptyTogether : left.toList = [] ↔ right.toList = [] := by
    rw [← flatMap_lowerForm_eq_nil_iff left.toList, (sameLetters_iff left right).mp same,
      flatMap_lowerForm_eq_nil_iff right.toList]
  rw [Bool.eq_iff_iff]
  simpa using emptyTogether

/--
Two names match exactly if the lower case forms of their characters are the same, so
the comparison up to ASCII case decides nothing differently. Matching is an equivalence,
and names that match have equally many dots and are both empty or both not.
-/
theorem namesMatch_byLowerForms :
    (∀ declared requested : String,
      (namesMatch declared requested = true ↔
        declared.toList.flatMap lowerForm = requested.toList.flatMap lowerForm) ∧
        (sameAsciiLetters declared requested = true → sameLetters declared requested = true)) ∧
      Equivalence (fun left right : String => namesMatch left right = true) ∧
        ∀ left right : String,
          namesMatch left right = true →
            left.toList.count '.' = right.toList.count '.' ∧ left.isEmpty = right.isEmpty := by
  simp only [namesMatch_eq_sameLetters]
  refine ⟨?_, ?_, ?_⟩
  · intro declared requested
    refine ⟨sameLetters_iff declared requested, ?_⟩
    intro ascii
    rw [← namesMatch_eq_sameLetters, namesMatch, ascii, Bool.true_or]
  · constructor
    · exact sameLetters_refl
    · intro left right same
      rw [sameLetters_comm]
      exact same
    · exact sameLetters_trans
  · intro left right same
    exact ⟨count_eq_of_sameLetters (by decide) same, isEmpty_eq_of_sameLetters same⟩

/--
The sign of kelvins is no ASCII letter but matches both forms of k, and a capital i with
a dot matches two characters.
-/
theorem namesMatch_byLowerForms_kelvins :
    (sameAsciiLetters "\u212Aelvins" "KELVINS" = false ∧
      namesMatch "\u212Aelvins" "KELVINS" = true) ∧
      sameLetters "kelvins" "KELVINS" = true ∧
        ("\u0130zmir.Port".toList.count '.' = "i\u0307zmir.port".toList.count '.' ∧
          "\u0130zmir.Port".isEmpty = "i\u0307zmir.port".isEmpty) := by
  obtain ⟨compared, equivalence, shared⟩ := namesMatch_byLowerForms
  have inSmall : namesMatch "\u212Aelvins" "kelvins" = true := by
    apply (compared "\u212Aelvins" "kelvins").1.mpr
    decide
  have inCapitals : namesMatch "kelvins" "KELVINS" = true := by
    apply (compared "kelvins" "KELVINS").1.mpr
    decide
  have port : namesMatch "\u0130zmir.Port" "i\u0307zmir.port" = true := by
    apply (compared "\u0130zmir.Port" "i\u0307zmir.port").1.mpr
    decide
  refine ⟨⟨by decide, equivalence.trans inSmall inCapitals⟩, ?_, shared _ _ port⟩
  exact (compared "kelvins" "KELVINS").2 (by decide)

end FieldSearch
