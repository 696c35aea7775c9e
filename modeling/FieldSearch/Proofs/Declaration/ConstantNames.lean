import FieldSearch.Proofs.Declaration.Expansion
import FieldSearch.Proofs.Declaration.Shape
import FieldSearch.Proofs.Text.LetterCase

namespace FieldSearch.Declaration

open Outcomes Text

/-!
# Which constants have the same name

A query name consists of words. They are separated by underscores, hyphens and
dots, and a word also ends where a capital letter follows a character that is
none. The name of a constant is made of the words of the query name, in ASCII
capitals and with underscores between them. It therefore forgets how the words
were separated and the case of ASCII letters in them, and nothing else: names of
constants are the same exactly if the query names have the same words.
-/

/-- A word ends at a character before others. -/
def endsWord (character : Char) (rest : List Char) : Bool :=
  !isUppercase character && rest.head?.any isUppercase

/-- The words that characters are made of. -/
def wordChars : List Char → List (List Char)
  | [] => [[]]
  | character :: rest =>
      if isSeparator character then
        [] :: wordChars rest
      else if endsWord character rest then
        [character] :: wordChars rest
      else
        (wordChars rest).modifyHead (character :: ·)

/-- The words that a name is made of. -/
def words (name : String) : List String :=
  (wordChars name.toList).map String.ofList

/-- Two names have the same words, apart from the case of ASCII letters. -/
def SameWords (first second : String) : Prop :=
  (words first).map asciiLowercase = (words second).map asciiLowercase

instance (first second : String) : Decidable (SameWords first second) :=
  inferInstanceAs (Decidable (_ = _))

/-- A name without capital letters in which only underscores separate words. -/
def IsSnakeCase (name : String) : Prop :=
  ∀ character ∈ name.toList,
    isUppercase character = false ∧ character ≠ '-' ∧ character ≠ '.'

theorem wordChars_ne_nil (characters : List Char) :
    wordChars characters ≠ [] := by
  induction characters with
  | nil =>
      simp [wordChars]
  | cons character rest inductionHypothesis =>
      unfold wordChars
      split_ifs
      · simp
      · simp
      · simpa using inductionHypothesis

/-- No separator is part of a word. -/
theorem isSeparator_of_mem_wordChars
    {characters word : List Char}
    (member : word ∈ wordChars characters)
    {character : Char}
    (inWord : character ∈ word) :
    isSeparator character = false := by
  induction characters generalizing word with
  | nil =>
      simp only [wordChars, List.mem_singleton] at member
      subst member
      cases inWord
  | cons first rest inductionHypothesis =>
      unfold wordChars at member
      by_cases separates : isSeparator first = true
      · rw [if_pos separates] at member
        rcases List.mem_cons.mp member with isEmpty | inRest
        · subst isEmpty
          cases inWord
        · exact inductionHypothesis inRest inWord
      · have notSeparator : isSeparator first = false := by
          simpa using separates
        rw [if_neg separates] at member
        by_cases ends : endsWord first rest = true
        · rw [if_pos ends] at member
          rcases List.mem_cons.mp member with isFirst | inRest
          · subst isFirst
            rw [List.mem_singleton.mp inWord]
            exact notSeparator
          · exact inductionHypothesis inRest inWord
        · obtain ⟨next, later, split⟩ := List.exists_cons_of_ne_nil (wordChars_ne_nil rest)
          rw [if_neg ends, split, List.modifyHead_cons] at member
          rcases List.mem_cons.mp member with isFirst | inLater
          · subst isFirst
            rcases List.mem_cons.mp inWord with isHere | inNext
            · rw [isHere]
              exact notSeparator
            · exact inductionHypothesis (by simp [split]) inNext
          · exact inductionHypothesis (by simp [split, inLater]) inWord

/-! Names of constants. -/

/-- Words in ASCII capitals, with underscores between them. -/
def joinCapitals (parts : List (List Char)) : List Char :=
  ['_'].intercalate (parts.map (·.map asciiUpper))

theorem joinCapitals_cons
    (part : List Char)
    {parts : List (List Char)}
    (nonempty : parts ≠ []) :
    joinCapitals (part :: parts) = part.map asciiUpper ++ '_' :: joinCapitals parts := by
  obtain ⟨next, later, rfl⟩ := List.exists_cons_of_ne_nil nonempty
  simp [joinCapitals]

theorem joinCapitals_modifyHead
    (character : Char)
    {parts : List (List Char)}
    (nonempty : parts ≠ []) :
    joinCapitals (parts.modifyHead (character :: ·)) =
      asciiUpper character :: joinCapitals parts := by
  obtain ⟨first, later, rfl⟩ := List.exists_cons_of_ne_nil nonempty
  cases later <;> simp [joinCapitals]

theorem isUppercase_of_isSeparator
    {character : Char}
    (separates : isSeparator character = true) :
    isUppercase character = false := by
  simp only [isSeparator, Bool.or_eq_true, beq_iff_eq] at separates
  rcases separates with (isMark | isMark) | isMark <;>
    · subst isMark
      decide

/--
The capital form of characters is made of their words. An underscore comes first if
a word has just ended before a capital letter, which the characters alone do not show.
-/
theorem capitalChars_eq (afterSmall : Bool) (characters : List Char) :
    capitalChars afterSmall characters =
      (if afterSmall && characters.head?.any isUppercase then ['_'] else []) ++
        joinCapitals (wordChars characters) := by
  induction characters generalizing afterSmall with
  | nil =>
      simp [capitalChars, joinCapitals, wordChars]
  | cons character rest inductionHypothesis =>
      have nonempty := wordChars_ne_nil rest
      unfold capitalChars wordChars
      by_cases capital : isUppercase character = true
      · have notSeparator : isSeparator character ≠ true := by
          intro separates
          rw [isUppercase_of_isSeparator separates] at capital
          cases capital
        have goesOn : endsWord character rest ≠ true := by
          simp [endsWord, capital]
        rw [if_pos capital, if_neg notSeparator, if_neg goesOn, inductionHypothesis,
          joinCapitals_modifyHead character nonempty, asciiUpper_of_isUppercase capital]
        cases afterSmall <;> simp [capital]
      · by_cases separates : isSeparator character = true
        · rw [if_neg capital, if_pos separates, if_pos separates, inductionHypothesis,
            joinCapitals_cons [] nonempty]
          simp [capital]
        · rw [if_neg capital, if_neg separates, if_neg separates, inductionHypothesis]
          by_cases ends : endsWord character rest = true
          · have next : rest.head?.any isUppercase = true := by
              simpa [endsWord, capital] using ends
            rw [if_pos ends, joinCapitals_cons [character] nonempty]
            simp [capital, next]
          · have next : rest.head?.any isUppercase = false := by
              simpa [endsWord, capital] using ends
            rw [if_neg ends, joinCapitals_modifyHead character nonempty]
            simp [capital, next]

theorem constantName_eq (name : String) :
    constantName name = String.ofList (joinCapitals (wordChars name.toList)) := by
  rw [constantName, capitalChars_eq]
  rfl

/-- Words can be told from their capital form with underscores between them. -/
theorem joinCapitals_wordChars_inj {first second : List Char} :
    joinCapitals (wordChars first) = joinCapitals (wordChars second) ↔
      (wordChars first).map (·.map asciiUpper) = (wordChars second).map (·.map asciiUpper) := by
  have splits (characters : List Char) :
      (joinCapitals (wordChars characters)).splitOn '_' =
        (wordChars characters).map (·.map asciiUpper) := by
    apply List.splitOn_intercalate
    · intro part member
      obtain ⟨word, wordMember, rfl⟩ := List.mem_map.mp member
      intro underscore
      obtain ⟨character, inWord, isUnderscore⟩ := List.mem_map.mp underscore
      have notSeparator := isSeparator_of_mem_wordChars wordMember inWord
      rw [(asciiUpper_eq_mark_iff (by decide)).mp isUnderscore] at notSeparator
      cases notSeparator
    · simpa using wordChars_ne_nil characters
  constructor
  · intro same
    rw [← splits first, ← splits second, same]
  · intro same
    rw [joinCapitals, joinCapitals, same]

/-- Words agree in ASCII capitals just if they agree in ASCII small letters. -/
theorem map_asciiUpper_eq_iff {first second : List (List Char)} :
    first.map (·.map asciiUpper) = second.map (·.map asciiUpper) ↔
      first.map (·.map asciiLower) = second.map (·.map asciiLower) := by
  constructor
  · intro same
    have lowered := congrArg (List.map (List.map asciiLower)) same
    simpa [Function.comp_def, asciiLower_asciiUpper] using lowered
  · intro same
    have raised := congrArg (List.map (List.map asciiUpper)) same
    simpa [Function.comp_def, asciiUpper_asciiLower] using raised

theorem sameWords_iff (first second : String) :
    SameWords first second ↔
      (wordChars first.toList).map (·.map asciiLower) =
        (wordChars second.toList).map (·.map asciiLower) := by
  have lowered (name : String) :
      (words name).map asciiLowercase =
        ((wordChars name.toList).map (·.map asciiLower)).map String.ofList := by
    simp [words, asciiLowercase, Function.comp_def]
  have injective : Function.Injective String.ofList :=
    fun _ _ same => String.ofList_injective same
  rw [SameWords, lowered, lowered]
  exact (List.map_injective_iff.mpr injective).eq_iff

/-- Constants have the same name exactly if their fields' query names have the same words. -/
theorem constantName_eq_iff (first second : String) :
    constantName first = constantName second ↔ SameWords first second := by
  rw [constantName_eq, constantName_eq, String.ofList_inj,
    joinCapitals_wordChars_inj, map_asciiUpper_eq_iff, sameWords_iff]

/-! Names in small letters. -/

theorem isSnakeCase_of_ascii
    {name : String}
    (small :
      ∀ character ∈ name.toList,
        character = '_' ∨ (97 ≤ character.toNat ∧ character.toNat ≤ 122)) :
    IsSnakeCase name := by
  intro character member
  rcases small character member with isUnderscore | isSmall
  · subst isUnderscore
    decide
  · refine ⟨isUppercase_of_asciiSmall isSmall, ?_, ?_⟩ <;>
      · intro isMark
        subst isMark
        exact absurd isSmall (by decide)

/-- Small letters are raised one by one, and underscores stay. -/
theorem capitalChars_of_isSnakeCase
    {characters : List Char}
    (isSnakeCase :
      ∀ character ∈ characters,
        isUppercase character = false ∧ character ≠ '-' ∧ character ≠ '.')
    (afterSmall : Bool) :
    capitalChars afterSmall characters = characters.map asciiUpper := by
  induction characters generalizing afterSmall with
  | nil =>
      rfl
  | cons character rest inductionHypothesis =>
      rw [List.forall_mem_cons] at isSnakeCase
      obtain ⟨⟨notCapital, notHyphen, notDot⟩, restIsSnakeCase⟩ := isSnakeCase
      unfold capitalChars
      by_cases isUnderscore : character = '_'
      · subst isUnderscore
        have underscore : asciiUpper '_' = '_' := by decide
        simp [notCapital, isSeparator, inductionHypothesis restIsSnakeCase, underscore]
      · simp [notCapital, isSeparator, isUnderscore, notHyphen, notDot,
          inductionHypothesis restIsSnakeCase]

theorem asciiLower_of_isSnakeCase
    {name : String}
    (isSnakeCase : IsSnakeCase name) :
    (name.toList.map asciiUpper).map asciiLower = name.toList := by
  rw [List.map_map]
  refine (List.map_congr_left ?_).trans (List.map_id name.toList)
  intro character member
  rw [Function.comp_apply, asciiLower_asciiUpper,
    asciiLower_of_not_isUppercase (isSnakeCase character member).1]
  rfl

/-- In small letters, different names have different constants. -/
theorem eq_of_constantName_eq
    {first second : String}
    (firstIsSnakeCase : IsSnakeCase first)
    (secondIsSnakeCase : IsSnakeCase second)
    (same : constantName first = constantName second) :
    first = second := by
  rw [constantName, constantName, String.ofList_inj,
    capitalChars_of_isSnakeCase firstIsSnakeCase,
    capitalChars_of_isSnakeCase secondIsSnakeCase] at same
  apply String.toList_injective
  rw [← asciiLower_of_isSnakeCase firstIsSnakeCase, same,
    asciiLower_of_isSnakeCase secondIsSnakeCase]

/-! Constants of a declaration. -/

theorem constant_eq_of_derive
    {field : FieldDeclaration}
    {derived : DerivedField}
    (derives : field.derive = .ok (some derived)) :
    derived.constant = constantName derived.queryName := by
  obtain ⟨options, kind, -, -, -, derivesAs⟩ :=
    FieldDeclaration.derive_eq_some_iff.mp derives
  obtain ⟨-, -, isDerived⟩ := FieldDeclaration.deriveAs_eq_ok derivesAs
  rw [isDerived]

/-- The constants of a declaration are named after its query names, in order. -/
theorem map_name_constants
    {declaration : Declaration}
    {expansion : Expansion}
    (expands : declaration.expand = .ok expansion) :
    expansion.constants.map (·.name) =
      (expansion.entries.map (·.named.name)).map constantName := by
  rw [expand_eq] at expands
  obtain ⟨fields, derives, rfl⟩ := map_eq_ok.mp expands
  simp only [Expansion.ofFields, List.map_map]
  apply List.map_congr_left
  intro derived member
  obtain ⟨field, -, derivesField⟩ := (mem_iff_of_derive derives).mp member
  exact constant_eq_of_derive derivesField

/--
The constants of a declaration have distinct names exactly if no two query names have
the same words. For query names in small letters with underscores it is enough that
they are distinct themselves.
-/
theorem constants_distinct_iff
    (declaration : Declaration)
    {expansion : Expansion}
    (expands : declaration.expand = .ok expansion) :
    ((expansion.constants.map (·.name)).Nodup ↔
      (expansion.entries.map (·.named.name)).Pairwise
        fun first second => ¬ SameWords first second) ∧
      ((expansion.entries.map (·.named.name)).Nodup →
        (∀ entry ∈ expansion.entries, IsSnakeCase entry.named.name) →
          (expansion.constants.map (·.name)).Nodup) := by
  rw [map_name_constants expands]
  constructor
  · rw [List.Nodup, List.pairwise_map]
    simp only [ne_eq, constantName_eq_iff]
  · intro distinct inSnakeCase
    apply distinct.map_on
    intro first firstMember second secondMember same
    obtain ⟨firstEntry, firstListed, rfl⟩ := List.mem_map.mp firstMember
    obtain ⟨secondEntry, secondListed, rfl⟩ := List.mem_map.mp secondMember
    exact eq_of_constantName_eq (inSnakeCase firstEntry firstListed)
      (inSnakeCase secondEntry secondListed) same

/-- Villas whose address goes by its name in two ways of writing. -/
def villa : Declaration where
  sort := .struct
  name := "Villa"
  parameters := []
  fields := [
    { name := "homeAddress", type := [word "String"], attributes := [searchable [word "Text"]] },
    { name := "home_address", type := [word "String"], attributes := [searchable [word "Text"]] }]

/-- What is derived for villas. -/
def villaFields : List DerivedField := [
  { storageName := "homeAddress", queryName := "homeAddress", constant := "HOME_ADDRESS",
    kind := .text, declared := .simple .text, caseSensitive := none,
    storage := { optional := false, container := .scalar, element := [word "String"] } },
  { storageName := "home_address", queryName := "home_address", constant := "HOME_ADDRESS",
    kind := .text, declared := .simple .text, caseSensitive := none,
    storage := { optional := false, container := .scalar, element := [word "String"] } }]

set_option maxRecDepth 4000 in
theorem derive_villa : villa.derive = .ok villaFields := by
  rfl

theorem expand_villa : villa.expand = .ok (Expansion.ofFields villaFields) := by
  rw [expand_eq, derive_villa]
  rfl

theorem expand_post : post.expand = .ok (Expansion.ofFields postFields) := by
  rw [expand_eq, derive_post]
  rfl

/--
Names that differ in letter case may have different words, as for residents, and
different names the same ones, as for villas.
-/
theorem constants_distinct_iff_mainHome :
    ((Expansion.ofFields residentFields).constants.map (·.name)).Nodup ∧
      ((Expansion.ofFields postFields).constants.map (·.name)).Nodup ∧
        ¬ ((Expansion.ofFields villaFields).constants.map (·.name)).Nodup := by
  refine ⟨?_, ?_, ?_⟩
  · have ofResident := (constants_distinct_iff resident expand_resident).1
    apply ofResident.mpr
    decide
  · have ofPost := (constants_distinct_iff post expand_post).2
    apply ofPost
    · decide
    · have tags : IsSnakeCase "tags" := isSnakeCase_of_ascii (by simp)
      have labels : IsSnakeCase "labels" := isSnakeCase_of_ascii (by simp)
      intro entry member
      rcases List.mem_pair.mp member with isTitle | isTags
      · subst isTitle
        exact tags
      · subst isTags
        exact labels
  · have ofVilla := (constants_distinct_iff villa expand_villa).1
    intro distinct
    have different := ofVilla.mp distinct
    exact absurd different (by decide)

/-- Two query names that are distinct give their constants the same name. -/
theorem homeAddress_constants_collide :
    ∃ expansion,
      villa.expand = .ok expansion ∧
        (expansion.entries.map (·.named.name)).Nodup ∧
          ¬ (expansion.constants.map (·.name)).Nodup :=
  ⟨Expansion.ofFields villaFields, expand_villa, by decide, by decide⟩

end FieldSearch.Declaration
