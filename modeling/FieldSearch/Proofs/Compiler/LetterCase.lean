import FieldSearch.Proofs.Lookup
import FieldSearch.Proofs.Strategy.Standard
import FieldSearch.Record.Developer

namespace FieldSearch

open Outcomes

/-!
# The reach of the letter case settings

Settings of letter case have a part in the choice between the two strategies for text
and nowhere else. So they reach searches in texts alone, and of these the flag in the
clause alone, patterns apart. The flag is the setting that decides for the path of the
field: that of an entry, or the attribute's own, or the default.
-/

namespace CaseSettings

/-- There is an entry with a setting for a path, in whatever letter case. -/
def HasEntry
    (settings : CaseSettings)
    (path : String)
    (setting : Option Bool) :
    Prop :=
  ∃ name, (name, setting) ∈ settings.fields ∧ sameLetters name path = true

/-- No two entries are for paths that differ in letter case alone. -/
def Unambiguous (settings : CaseSettings) : Prop :=
  ∀ entry ∈ settings.fields, ∀ other ∈ settings.fields,
    sameLetters entry.1 other.1 = true → entry = other

instance (settings : CaseSettings) : Decidable settings.Unambiguous :=
  inferInstanceAs (Decidable (∀ entry ∈ settings.fields, ∀ other ∈ settings.fields, _ → _))

/-- Whether letter case counts for a path, given what its attribute declares. -/
inductive Decides (settings : CaseSettings) (path : String) : Option Bool → Bool → Prop where
  | override
      {declared : Option Bool}
      {counts : Bool}
      (entry : settings.HasEntry path (some counts)) :
      Decides settings path declared counts
  | declaration
      {counts : Bool}
      (noOverride : ∀ setting, ¬ settings.HasEntry path (some setting)) :
      Decides settings path (some counts) counts
  | byDefault
      (noOverride : ∀ setting, ¬ settings.HasEntry path (some setting)) :
      Decides settings path none settings.caseSensitive

section

variable
  {settings : CaseSettings}
  {path : String}

/-- Entries for one path are one entry. -/
theorem Unambiguous.eq_of_hasEntry
    (unambiguous : settings.Unambiguous)
    {setting other : Option Bool}
    (entry : settings.HasEntry path setting)
    (otherEntry : settings.HasEntry path other) :
    setting = other := by
  obtain ⟨name, member, isPath⟩ := entry
  obtain ⟨otherName, otherMember, otherIsPath⟩ := otherEntry
  rw [sameLetters_comm] at otherIsPath
  have same :=
    unambiguous _ member _ otherMember (sameLetters_trans isPath otherIsPath)
  exact congrArg Prod.snd same

/-- The setting that is found for a path is that of its entry. -/
theorem Unambiguous.settingFor?_eq
    (unambiguous : settings.Unambiguous)
    {setting : Option Bool}
    (entry : settings.HasEntry path setting) :
    settings.settingFor? path = setting := by
  obtain ⟨name, member, isPath⟩ := entry
  have found :
      (settings.fields.find? fun entry => namesMatch entry.1 path) = some (name, setting) := by
    refine Lookup.find?_eq_some_of_unique member ?_ ?_
    · rw [namesMatch_eq_sameLetters]
      exact isPath
    · rintro ⟨otherName, other⟩ otherMember otherIsPath
      rw [namesMatch_eq_sameLetters, sameLetters_comm] at otherIsPath
      exact (unambiguous _ member _ otherMember (sameLetters_trans isPath otherIsPath)).symm
  exact congrArg (Option.bind · Prod.snd) found

theorem hasEntry_of_settingFor?
    {setting : Bool}
    (isFound : settings.settingFor? path = some setting) :
    settings.HasEntry path (some setting) := by
  obtain ⟨⟨name, kept⟩, found, isKept⟩ := Option.bind_eq_some_iff.mp isFound
  obtain rfl : kept = some setting := isKept
  refine ⟨name, List.mem_of_find?_eq_some found, ?_⟩
  rw [← namesMatch_eq_sameLetters]
  simpa using List.find?_some found

/-- Among unambiguous entries, what decides is an override, a declaration or the default. -/
theorem Unambiguous.caseSensitiveFor_eq_iff
    (unambiguous : settings.Unambiguous)
    {declared : Option Bool}
    {counts : Bool} :
    settings.caseSensitiveFor path declared = counts ↔ settings.Decides path declared counts := by
  unfold caseSensitiveFor
  cases isFound : settings.settingFor? path with
  | some setting =>
      have entry := hasEntry_of_settingFor? isFound
      constructor
      · rintro rfl
        exact .override entry
      · intro decides
        cases decides with
        | override other =>
            exact Option.some.inj (unambiguous.eq_of_hasEntry entry other)
        | declaration noOverride | byDefault noOverride =>
            exact absurd entry (noOverride setting)
  | none =>
      -- If there is an entry at all, it leaves the question open, and it is the only one.
      have noOverride (setting : Bool) : ¬ settings.HasEntry path (some setting) := by
        intro entry
        rw [unambiguous.settingFor?_eq entry] at isFound
        cases isFound
      constructor
      · rintro rfl
        cases declared with
        | none =>
            exact .byDefault noOverride
        | some counts =>
            exact .declaration noOverride
      · intro decides
        cases decides with
        | override entry =>
            exact absurd entry (noOverride counts)
        | declaration | byDefault =>
            rfl

end

end CaseSettings

/-- Two clauses differ at most in whether letter case counts. -/
def Clause.SameButCase (left right : Clause) : Prop :=
  { left with caseSensitive := right.caseSensitive } = right

/-- Only for text there are two strategies. -/
theorem StrategyTable.scalar_eq_of_ne_text
    (table : StrategyTable)
    {kind : ValueKind}
    (notText : kind ≠ .text)
    (caseSensitive other : Bool) :
    table.scalar kind caseSensitive = table.scalar kind other := by
  cases kind with
  | text =>
      exact absurd rfl notText
  | integer | decimal | boolean | temporal | enumeration =>
      rfl

namespace Strategy

/-- The two strategies for text read alike, whatever the shape of the field. -/
theorem fit_text_readRaw
    (caseSensitive other : Bool)
    (shape : FieldShape)
    (type : ValueType)
    (value : RawValue) :
    (StrategyTable.fit (StrategyTable.standard.scalar .text caseSensitive) shape).readRaw
        type value =
      (StrategyTable.fit (StrategyTable.standard.scalar .text other) shape).readRaw
        type value := by
  cases caseSensitive <;> cases other <;> cases shape <;> cases value <;> rfl

/-- The two strategies for text build clauses that differ in the flag, patterns apart. -/
theorem fit_text_build_sameButCase
    (caseSensitive other : Bool)
    (shape : FieldShape)
    (target : FieldPath)
    (value : Operand)
    {operator : Operator}
    (notPattern : operator ≠ .regex) :
    Agree Clause.SameButCase
      ((StrategyTable.fit (StrategyTable.standard.scalar .text caseSensitive) shape).build
        target operator value)
      ((StrategyTable.fit (StrategyTable.standard.scalar .text other) shape).build
        target operator value) := by
  by_cases admitted :
      ∃ form, operator.formFor? shape value.isList = some form ∧ form ∈ ValueKind.text.operators
  · obtain ⟨form, isForm, isAdmitted⟩ := admitted
    have formNotPattern : form ≠ .regex := by
      unfold Operator.formFor? at isForm
      split at isForm
      · exact (Operator.isSetTest_of_asMembership? isForm).ne_regex
      · cases isForm
        exact notPattern
    rw [fit_build_of_form caseSensitive target isForm isAdmitted formNotPattern,
      fit_build_of_form other target isForm isAdmitted formNotPattern]
    refine .ok ?_
    simp [Clause.SameButCase, Clause.ofForm]
  · have refused :
        ∀ form, operator.formFor? shape value.isList = some form →
          form ∉ ValueKind.text.operators :=
      fun form isForm isAdmitted => admitted ⟨form, isForm, isAdmitted⟩
    rw [fit_build_of_refused caseSensitive target refused,
      fit_build_of_refused other target refused]
    exact .error _

/-- A clause over texts has the letter case of the strategy that built it. -/
theorem caseSensitive_of_textClause
    {caseSensitive : Bool}
    {target : FieldPath}
    {operator : Operator}
    {value : Operand}
    {clause : Clause}
    (built : textClause caseSensitive target operator value = .ok clause) :
    clause.caseSensitive = caseSensitive := by
  rcases textClause_eq_ok built with ⟨-, patternBuilt⟩ | ⟨-, plain, -, rfl⟩
  · obtain ⟨_, -, -, rfl⟩ := patternClause_eq_ok patternBuilt
    rfl
  · rfl

theorem caseSensitive_of_fit_text
    {caseSensitive : Bool}
    {shape : FieldShape}
    {target : FieldPath}
    {operator : Operator}
    {value : Operand}
    {clause : Clause}
    (built :
      (StrategyTable.fit (StrategyTable.standard.scalar .text caseSensitive) shape).build
        target operator value = .ok clause) :
    clause.caseSensitive = caseSensitive := by
  cases shape with
  | scalar =>
      rw [StrategyTable.fit, standard_build_text] at built
      exact caseSensitive_of_textClause built
  | collection =>
      obtain ⟨_, inner, -, innerBuilt, rfl⟩ := collection_build_eq_ok built
      rw [standard_build_text] at innerBuilt
      have innerCase := caseSensitive_of_textClause innerBuilt
      exact innerCase

end Strategy

namespace Compiler

section Found

variable
  {root : FieldType}
  (settings other : CaseSettings)
  (operator : Operator)
  (value : RawValue)
  (passed : List Attribute)
  (context : FieldType)
  {found : Attribute}

/-- At an attribute that is no text, settings have no part in the outcome. -/
theorem compileFound_of_not_text
    (notText : ∀ type, found.declared = .value type → type.kind ≠ .text) :
    Compiler.compileFound { root := root } { settings := settings } operator value passed context
        found =
      Compiler.compileFound { root := root } { settings := other } operator value passed context
        found := by
  unfold compileFound
  cases declared : found.declared with
  | value type =>
      simp only [chosenStrategy, Option.getD_none]
      rw [StrategyTable.scalar_eq_of_ne_text _ (notText type declared)
        (caseSensitiveAt { settings := settings } passed found)
        (caseSensitiveAt { settings := other } passed found)]
  | entity | «foreign» =>
      rfl

variable {type : ValueType}

/-- At a text, settings have a part in the flag alone, unless the search is for a pattern. -/
theorem compileFound_sameButCase
    (declared : found.declared = .value type)
    (isText : type.kind = .text)
    (notPattern : operator ≠ .regex) :
    Agree Clause.SameButCase
      (Compiler.compileFound { root := root } { settings := settings } operator value passed
        context found)
      (Compiler.compileFound { root := root } { settings := other } operator value passed
        context found) := by
  simp only [compileFound, declared, chosenStrategy, Option.getD_none, isText, Strategy.parse]
  rw [Strategy.fit_text_readRaw _ (caseSensitiveAt { settings := other } passed found)]
  refine (Agree.of_eq rfl).bind ?_
  rintro operand _ rfl
  exact Strategy.fit_text_build_sameButCase _ _ _ _ _ notPattern

/-- The flag of a clause over a text is the setting for its path. -/
theorem caseSensitive_of_compileFound
    {settings : CaseSettings}
    {operator : Operator}
    {value : RawValue}
    {passed : List Attribute}
    {context : FieldType}
    (declared : found.declared = .value type)
    (isText : type.kind = .text)
    {clause : Clause}
    (compiled :
      Compiler.compileFound { root := root } { settings := settings } operator value passed
        context found = .ok clause) :
    clause.caseSensitive = caseSensitiveAt { settings := settings } passed found := by
  simp only [compileFound, declared, chosenStrategy, Option.getD_none, isText] at compiled
  obtain ⟨operand, -, built⟩ := bind_eq_ok.mp compiled
  exact Strategy.caseSensitive_of_fit_text built

end Found

/--
Settings of letter case reach searches in texts and nothing else. Where a key does not
lead to an attribute of a text type, any two settings give equal clauses or the same
error. Where it does, and the search is not for a pattern, the outcomes are equal but
for the flag of the clause. That flag is decided by the entry for the path, if it says
anything, else by the attribute, else by the default, provided that no two entries are
for paths that differ in letter case alone.
-/
theorem compile_settings_reach_text
    (schema : EntitySchema)
    (settings other : CaseSettings)
    (key : String)
    (accepted : Key.wellFormed key = true)
    (operator : Operator)
    (value : RawValue) :
    ((∀ passed context found type,
        LeadsTo (.entity schema) key passed context found →
          found.declared = .value type →
            type.kind ≠ .text) →
      (Compiler.ofSchema schema).compile { settings := settings } ⟨key, operator, value⟩ =
        (Compiler.ofSchema schema).compile { settings := other } ⟨key, operator, value⟩) ∧
      ∀ passed context found type,
        LeadsTo (.entity schema) key passed context found →
          found.declared = .value type →
            type.kind = .text →
              (operator ≠ .regex →
                Agree Clause.SameButCase
                  ((Compiler.ofSchema schema).compile { settings := settings }
                    ⟨key, operator, value⟩)
                  ((Compiler.ofSchema schema).compile { settings := other }
                    ⟨key, operator, value⟩)) ∧
                (settings.Unambiguous →
                  ∀ clause,
                    (Compiler.ofSchema schema).compile { settings := settings }
                        ⟨key, operator, value⟩ = .ok clause →
                      ∀ counts,
                        clause.caseSensitive = counts ↔
                          settings.Decides (pathTo passed found).toText found.caseSensitive
                            counts) := by
  have arrives {passed : List Attribute} {context : FieldType} {found : Attribute}
      (leads : LeadsTo (.entity schema) key passed context found)
      (settings : CaseSettings) :=
    (Compiler.ofSchema schema).compile_of_leadsTo { settings := settings } accepted leads
      operator value
  constructor
  · intro notText
    rcases leadsTo_or_stuckAt (.entity schema) key with
      ⟨passed, context, found, leads⟩ | ⟨index, context, stuck⟩
    · rw [arrives leads settings, arrives leads other]
      exact compileFound_of_not_text settings other operator value passed context
        fun type declared => notText passed context found type leads declared
    · obtain ⟨segment, atIndex⟩ := stuck.exists_segment
      have blamed (settings : CaseSettings) :=
        @compile_of_stuckAt (.ofSchema schema) { settings := settings } ⟨key, operator, value⟩
          accepted index context segment stuck atIndex
      rw [blamed settings, blamed other]
  · intro passed context found type leads declared isText
    rw [arrives leads settings, arrives leads other]
    constructor
    · intro notPattern
      exact compileFound_sameButCase settings other operator value passed context declared isText
        notPattern
    · intro unambiguous clause compiled counts
      rw [caseSensitive_of_compileFound declared isText compiled]
      exact unambiguous.caseSensitiveFor_eq_iff

/-- Letter case counts for cities, although addresses declare the contrary. -/
def countingCity : CaseSettings where
  caseSensitive := false
  fields := [("City", some true), ("zip", none)]

/-- The entry for cities sets the flag of a search for cities, and of nothing else. -/
theorem compile_settings_reach_text_city :
    (∃ clause,
      (Compiler.ofSchema Record.Address.schema).compile { settings := countingCity }
          ⟨"CITY", .startsWith, .single "Par"⟩ = .ok clause ∧
        clause.caseSensitive = true) ∧
      Agree Clause.SameButCase
        ((Compiler.ofSchema Record.Address.schema).compile { settings := countingCity }
          ⟨"CITY", .startsWith, .single "Par"⟩)
        ((Compiler.ofSchema Record.Address.schema).compile { settings := {} }
          ⟨"CITY", .startsWith, .single "Par"⟩) ∧
      (Compiler.ofSchema Record.Address.schema).compile { settings := countingCity }
          ⟨"zip", .gt, .single "7"⟩ =
        (Compiler.ofSchema Record.Address.schema).compile { settings := {} }
          ⟨"zip", .gt, .single "7"⟩ := by
  let city : Attribute := ⟨"city", Record.typeOf .text, some false⟩
  have leads : LeadsTo (.entity Record.Address.schema) "CITY" [] (.entity Record.Address.schema)
      city :=
    leadsTo_of_dot_not_mem (by decide) rfl
  have unambiguous : countingCity.Unambiguous := by
    decide
  obtain ⟨sameButCase, decided⟩ :=
    (compile_settings_reach_text Record.Address.schema countingCity {} "CITY" (by decide)
      .startsWith (.single "Par")).2 [] _ city (.ofKind .text) leads rfl rfl
  refine ⟨⟨_, rfl, ?_⟩, sameButCase (by decide), ?_⟩
  · rw [decided unambiguous _ rfl]
    refine .override ⟨"City", .head _, ?_⟩
    decide
  · refine (compile_settings_reach_text Record.Address.schema countingCity {} "zip" (by decide)
      .gt (.single "7")).1 ?_
    rintro passed context found type ⟨route, denotes⟩ declared
    have enclosing : Key.enclosing "zip" = [] := by decide
    have terminal : Key.terminal "zip" = "zip" := by decide
    rw [enclosing] at route
    rw [terminal] at denotes
    cases route
    cases denotes
    cases declared
    decide

end Compiler

end FieldSearch
