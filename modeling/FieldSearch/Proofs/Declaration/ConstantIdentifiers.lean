import FieldSearch.Proofs.Declaration.ConstantNames
import FieldSearch.Proofs.Text.Identifier

namespace FieldSearch.Declaration

open Outcomes Text

/-!
# Which constants can be named

The name of a constant has to be an identifier. Capital letters are kept, other
characters are raised at most, and underscores are put between characters and in the
place of separators, never before the first character. The name is therefore an
identifier exactly if the query name is one, up to its hyphens and dots.
-/

/-- An underscore in the place of a hyphen or a dot. -/
def underscored (character : Char) : Char :=
  if character = '-' ∨ character = '.' then '_' else character

/-- A name with underscores in the place of hyphens and dots. -/
def withUnderscores (name : String) : String :=
  String.ofList (name.toList.map underscored)

/-- The capital form of a character taken on its own. -/
def capitalForm (character : Char) : Char :=
  if isSeparator character then '_' else asciiUpper character

/-- A step writes the capital form of a character, after an underscore if a word has ended. -/
theorem capitalChars_cons
    (afterSmall : Bool)
    (character : Char)
    (rest : List Char) :
    ∃ next,
      capitalChars afterSmall (character :: rest) =
        (if afterSmall && isUppercase character then ['_'] else []) ++
          capitalForm character :: capitalChars next rest := by
  by_cases capital : isUppercase character = true
  · have notSeparator : isSeparator character ≠ true := by
      intro separates
      rw [isUppercase_of_isSeparator separates] at capital
      cases capital
    refine ⟨false, ?_⟩
    rw [capitalChars, if_pos capital, capitalForm, if_neg notSeparator,
      asciiUpper_of_isUppercase capital]
    cases afterSmall <;> simp [capital]
  · by_cases separates : isSeparator character = true
    · refine ⟨false, ?_⟩
      rw [capitalChars, if_neg capital, if_pos separates, capitalForm, if_pos separates]
      simp [capital]
    · refine ⟨true, ?_⟩
      rw [capitalChars, if_neg capital, if_neg separates, capitalForm, if_neg separates]
      simp [capital]

/-- The capital form of a character has what letters have just if the character has it. -/
theorem capitalForm_eq
    {property : Char → Bool}
    (holds : HoldsOfLetters property)
    (character : Char) :
    property (capitalForm character) = property (underscored character) := by
  unfold capitalForm underscored
  by_cases isMark : character = '-' ∨ character = '.'
  · have separates : isSeparator character = true := by
      rcases isMark with rfl | rfl <;> rfl
    rw [if_pos separates, if_pos isMark]
  · rw [if_neg isMark]
    by_cases separates : isSeparator character = true
    · have isUnderscore : character = '_' := by
        simpa [isSeparator, not_or.mp isMark] using separates
      rw [if_pos separates, isUnderscore]
    · rw [if_neg separates]
      exact holds.asciiUpper_eq character

/-- The characters that are written may all continue an identifier just if those read may. -/
theorem all_isIdentifierContinue_capitalChars
    (afterSmall : Bool)
    (characters : List Char) :
    (capitalChars afterSmall characters).all isIdentifierContinue =
      (characters.map underscored).all isIdentifierContinue := by
  induction characters generalizing afterSmall with
  | nil =>
      rfl
  | cons character rest inductionHypothesis =>
      obtain ⟨next, step⟩ := capitalChars_cons afterSmall character rest
      have inserted :
          (if afterSmall && isUppercase character then ['_'] else []).all
            isIdentifierContinue = true := by
        split
        · simp [isIdentifierContinue_underscore]
        · rfl
      rw [step, List.all_append, inserted, Bool.true_and, List.all_cons, List.map_cons,
        List.all_cons, inductionHypothesis,
        capitalForm_eq holdsOfLetters_isIdentifierContinue]

/-- Nothing is put before the first character. -/
theorem isIdentifierChars_capitalChars (characters : List Char) :
    isIdentifierChars (capitalChars false characters) =
      isIdentifierChars (characters.map underscored) := by
  cases characters with
  | nil =>
      rfl
  | cons first rest =>
      have starts :
          HoldsOfLetters fun character => character == '_' || isIdentifierStart character := by
        intro character letter
        simp [holdsOfLetters_isIdentifierStart character letter]
      have firstEq := capitalForm_eq starts first
      obtain ⟨next, step⟩ := capitalChars_cons false first rest
      rw [step, Bool.false_and, if_neg Bool.false_ne_true, List.nil_append, List.map_cons,
        isIdentifierChars, isIdentifierChars, all_isIdentifierContinue_capitalChars, firstEq]

theorem isIdentifier_constantName (name : String) :
    isIdentifier (constantName name) = isIdentifier (withUnderscores name) := by
  rw [isIdentifier, isIdentifier, constantName, withUnderscores, String.toList_ofList,
    String.toList_ofList, isIdentifierChars_capitalChars]

/-- There are no hyphens and dots to be replaced in an identifier. -/
theorem withUnderscores_of_isIdentifier
    {name : String}
    (plain : isIdentifier name = true) :
    withUnderscores name = name := by
  have unchanged : ∀ character ∈ name.toList, underscored character = character := by
    intro character member
    have continues := isIdentifierContinue_of_isIdentifierChars plain member
    obtain ⟨notHyphen, notDot⟩ := ne_hyphen_dot_of_isIdentifierContinue continues
    exact if_neg (not_or.mpr ⟨notHyphen, notDot⟩)
  rw [withUnderscores, List.map_congr_left unchanged, List.map_id']
  exact String.ofList_toList

/-! Failures for the name of a constant. -/

/-- The name of a constant plays no part in reading the options of a field. -/
theorem SearchOption.ofItem_ne_badConstantName
    (item : Item)
    (constant : String) :
    SearchOption.ofItem item ≠ .error (.badConstantName constant) := by
  have ofKindName (name : String) :
      SearchOption.ofKindName name ≠ .error (.badConstantName constant) := by
    unfold SearchOption.ofKindName
    split <;> simp
  have stringValue (option : String) (value : ItemValue) :
      SearchOption.stringValue option value ≠ .error (.badConstantName constant) := by
    cases value <;> simp [SearchOption.stringValue]
  intro failed
  unfold SearchOption.ofItem at failed
  split at failed
  · cases failed
  · cases failed
  · cases failed
  · exact ofKindName _ failed
  · cases failed
  · exact stringValue _ _ (map_eq_error.mp failed)
  · rcases bind_eq_error.mp failed with notString | ⟨name, -, notKind⟩
    · exact stringValue _ _ notString
    · exact ofKindName name notKind
  · cases failed
  · cases failed

theorem SearchOptions.ofAttributes_ne_badConstantName
    (attributes : List (List Token))
    (constant : String) :
    SearchOptions.ofAttributes attributes ≠ .error (.badConstantName constant) := by
  intro failed
  unfold SearchOptions.ofAttributes at failed
  split at failed
  · cases failed
  · rcases bind_eq_error.mp failed with malformed | ⟨items, -, combines⟩
    · obtain ⟨reason, -, same⟩ := mapError_eq_error.mp malformed
      cases same
    · rcases bind_eq_error.mp combines with notOption | ⟨options, -, impossible⟩
      · obtain ⟨-, item, -, -, -, ofItem⟩ := mapM_eq_error_iff.mp notOption
        exact SearchOption.ofItem_ne_badConstantName item constant ofItem
      · cases impossible
  · cases failed
  · cases failed

namespace FieldDeclaration

/-- A field is searched with the given options, as one of the given kind. -/
structure IsSearchedWith
    (field : FieldDeclaration)
    (options : SearchOptions)
    (kind : SearchKind) : Prop where
  reads : SearchOptions.ofAttributes field.attributes = .ok options
  notSkipped : options.skip = false
  hasKind : options.kind = some kind

variable
  {field : FieldDeclaration}
  {options : SearchOptions}
  {kind : SearchKind}
  {constant : String}

theorem declaredType_ne_badConstantName (storage : Storage) :
    declaredType kind storage ≠ .error (.badConstantName constant) := by
  unfold declaredType
  split
  · split <;> simp
  · simp
  · simp

theorem deriveAs_eq_badConstantName_iff :
    field.deriveAs options kind = .error (.badConstantName constant) ↔
      constant = constantName (field.queryName options) ∧
        isIdentifier (constantName (field.queryName options)) = false := by
  unfold deriveAs
  dsimp only
  rw [← queryName]
  by_cases named : isIdentifier (constantName (field.queryName options)) = true
  · rw [if_pos named, bind_eq_error]
    constructor
    · rintro (noType | ⟨declared, -, impossible⟩)
      · exact absurd noType (declaredType_ne_badConstantName _)
      · cases impossible
    · rintro ⟨-, notNamed⟩
      rw [named] at notNamed
      cases notNamed
  · rw [if_neg named]
    simp [named, eq_comm]

/-- A field fails for the name of its constant just if the name is no identifier. -/
theorem derive_eq_badConstantName_iff
    (searched : field.IsSearchedWith options kind) :
    field.derive = .error (.badConstantName constant) ↔
      constant = constantName (field.queryName options) ∧
        isIdentifier (withUnderscores (field.queryName options)) = false := by
  rw [derive_of_kind searched.reads searched.notSkipped searched.hasKind, map_eq_error,
    deriveAs_eq_badConstantName_iff, isIdentifier_constantName]

/-- Only fields that are searched fail for the names of constants. -/
theorem exists_isSearchedWith_of_derive
    (failed : field.derive = .error (.badConstantName constant)) :
    ∃ options kind, field.IsSearchedWith options kind := by
  rcases bind_eq_error.mp failed with unread | ⟨options, reads, later⟩
  · exact absurd unread (SearchOptions.ofAttributes_ne_badConstantName _ _)
  · split at later
    · next kind notSkipped hasKind =>
        exact ⟨options, kind, reads, notSkipped, hasKind⟩
    · cases later

end FieldDeclaration

/--
The name of a constant is an identifier exactly if the query name is one when underscores
replace its hyphens and dots, so in particular if it is one itself. This alone decides
whether a searched field fails for the name of its constant, and a struct fails for the
name of a constant only because of such a field.
-/
theorem constant_isNamed_iff :
    (∀ name, isIdentifier (constantName name) = isIdentifier (withUnderscores name)) ∧
      (∀ name, isIdentifier name = true → isIdentifier (constantName name) = true) ∧
        (∀ (field : FieldDeclaration) (options : SearchOptions) (kind : SearchKind),
          field.IsSearchedWith options kind →
            ∀ constant,
              field.derive = .error (.badConstantName constant) ↔
                constant = constantName (field.queryName options) ∧
                  isIdentifier (withUnderscores (field.queryName options)) = false) ∧
          ∀ (declaration : Declaration) (constant : String),
            declaration.expand = .error (.badConstantName constant) →
              ∃ field ∈ declaration.fields, ∃ options kind,
                field.IsSearchedWith options kind ∧
                  constant = constantName (field.queryName options) ∧
                    isIdentifier (withUnderscores (field.queryName options)) = false := by
  refine ⟨isIdentifier_constantName, ?_, ?_, ?_⟩
  · intro name plain
    rw [isIdentifier_constantName, withUnderscores_of_isIdentifier plain]
    exact plain
  · intro field options kind searched constant
    exact FieldDeclaration.derive_eq_badConstantName_iff searched
  · intro declaration constant failed
    unfold expand at failed
    split at failed
    · obtain ⟨earlier, field, later, split, -, alone⟩ := expandFields_eq_error_iff.mp failed
      simp only [expandFields_singleton, map_eq_error] at alone
      obtain ⟨options, kind, searched⟩ :=
        FieldDeclaration.exists_isSearchedWith_of_derive alone
      refine ⟨field, ?_, options, kind, searched, ?_⟩
      · rw [split]
        simp
      · exact (FieldDeclaration.derive_eq_badConstantName_iff searched).mp alone
    all_goals cases failed

/-- A search attribute for texts with another name to query them by. -/
def textNamed (name : String) : List Token :=
  searchable [word "Text", mark ',', word "rename", mark '=', .atom (.string name name)]

/-- Plots with a size, whose name has a dot and a hyphen, and a row that starts with a digit. -/
def plot : Declaration where
  sort := .struct
  name := "Plot"
  parameters := []
  fields := [
    { name := "size", type := [word "String"], attributes := [textNamed "gr\u00F6\u00DFe.in-cm"] },
    { name := "row", type := [word "String"], attributes := [textNamed "1st-row"] }]

set_option maxRecDepth 4000 in
/-- The size has a constant; the row fails for the name of its own, and the plot with it. -/
theorem constant_isNamed_iff_plot :
    isIdentifier (constantName "gr\u00F6\u00DFe.in-cm") = true ∧
      (plot.fields[0].derive ≠ .error (.badConstantName "GR\u00F6\u00DFE_IN_CM")) ∧
        plot.fields[1].derive = .error (.badConstantName "1ST_ROW") ∧
          ∃ field ∈ plot.fields, ∃ options kind,
            field.IsSearchedWith options kind ∧
              "1ST_ROW" = constantName (field.queryName options) := by
  obtain ⟨same, -, ofField, ofStruct⟩ := constant_isNamed_iff
  let sizeOptions : SearchOptions := {
    kind := some .text
    rename := some "gr\u00F6\u00DFe.in-cm" }
  let rowOptions : SearchOptions := { kind := some .text, rename := some "1st-row" }
  have ofSize := ofField plot.fields[0] sizeOptions .text ⟨rfl, rfl, rfl⟩
  have ofRow := ofField plot.fields[1] rowOptions .text ⟨rfl, rfl, rfl⟩
  refine ⟨?_, ?_, ?_, ?_⟩
  · rw [same]
    decide
  · intro failed
    exact absurd ((ofSize _).mp failed).2 (by decide)
  · exact (ofRow _).mpr ⟨by decide, by decide⟩
  · obtain ⟨field, member, options, kind, searched, named, -⟩ := ofStruct plot "1ST_ROW" rfl
    exact ⟨field, member, options, kind, searched, named⟩

end FieldSearch.Declaration
