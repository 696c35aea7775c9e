import FieldSearch.Config
import FieldSearch.Proofs.Path.Names
import Mathlib.Data.String.Basic

namespace FieldSearch

/-!
# Overrides of letter case

A configuration is built step by step, and a step that sets the entry for a path
replaces the entry with the same spelling alone. Entries are kept in the order of
their spellings, and the first one that matches a path decides, so an entry whose
spelling comes earlier goes on to decide after an override of a later spelling.
-/

/-- A step in the building of a configuration. -/
inductive ConfigStep where
  /-- Letter case does not count where nothing else is said. -/
  | caseInsensitive
  /-- Set the entry for a path, which may leave the question open. -/
  | withField (path : String) (setting : Option Bool)
  /-- Use a strategy for every field. -/
  | withStrategy (strategy : Strategy)

namespace ConfigStep

/-- Take a step. -/
def apply (config : Config) : ConfigStep → Config
  | caseInsensitive => config.caseInsensitive
  | withField path setting => config.withField path setting
  | withStrategy strategy => config.withStrategy strategy

/-- What a step sets the entry with exactly this spelling to, if it sets it. -/
def settingOf? (name : String) : ConfigStep → Option (Option Bool)
  | withField path setting => if path = name then some setting else none
  | caseInsensitive => none
  | withStrategy _ => none

end ConfigStep

/-- The configuration that is built in some steps. -/
def Config.build (steps : List ConfigStep) : Config :=
  steps.foldl ConfigStep.apply {}

/-- What the last of the steps that set an entry has set it to. -/
def Config.lastSetting? (steps : List ConfigStep) (name : String) : Option (Option Bool) :=
  steps.reverse.findSome? (·.settingOf? name)

namespace CaseSettings

/-- Entries in the order of their paths, each path once. -/
def Ordered (entries : List (String × Option Bool)) : Prop :=
  entries.Pairwise (·.1 < ·.1)

section

variable
  {path : String}
  {setting : Option Bool}
  {entries : List (String × Option Bool)}

/-- Beside what was there, an inserted list has the new entry alone. -/
theorem eq_or_mem_of_mem_insertEntry
    {entry : String × Option Bool}
    (member : entry ∈ insertEntry path setting entries) :
    entry = (path, setting) ∨ entry ∈ entries := by
  induction entries with
  | nil =>
      exact .inl (List.mem_singleton.mp member)
  | cons first rest inductionHypothesis =>
      unfold insertEntry at member
      split at member
      · rcases List.mem_cons.mp member with isNew | inRest
        · exact .inl isNew
        · exact .inr (.tail _ inRest)
      · split at member
        · exact List.mem_cons.mp member
        · rcases List.mem_cons.mp member with isFirst | inserted
          · exact .inr (isFirst ▸ .head _)
          · exact (inductionHypothesis inserted).imp_right (.tail _)

theorem insertEntry_ordered (ordered : Ordered entries) :
    Ordered (insertEntry path setting entries) := by
  induction entries with
  | nil =>
      exact List.pairwise_singleton _ _
  | cons first rest inductionHypothesis =>
      obtain ⟨firstBefore, restOrdered⟩ := List.pairwise_cons.mp ordered
      unfold insertEntry
      split
      · next isFirst =>
          exact List.pairwise_cons.mpr ⟨fun other member => isFirst ▸ firstBefore other member,
            restOrdered⟩
      · next notFirst =>
          split
          · next isBefore =>
              refine List.pairwise_cons.mpr ⟨?_, ordered⟩
              intro other member
              rcases List.mem_cons.mp member with rfl | inRest
              · exact isBefore
              · exact isBefore.trans (firstBefore other inRest)
          · next notBefore =>
              refine List.pairwise_cons.mpr ⟨?_, inductionHypothesis restOrdered⟩
              intro other member
              rcases eq_or_mem_of_mem_insertEntry member with rfl | inRest
              · exact lt_of_le_of_ne (not_lt.mp notBefore) (Ne.symm notFirst)
              · exact firstBefore other inRest

theorem mem_insertEntry_self : (path, setting) ∈ insertEntry path setting entries := by
  induction entries with
  | nil =>
      exact .head _
  | cons first rest inductionHypothesis =>
      unfold insertEntry
      split
      · exact .head _
      · split
        · exact .head _
        · exact .tail _ inductionHypothesis

theorem mem_insertEntry_of_ne
    {name : String}
    {kept : Option Bool}
    (apart : path ≠ name) :
    (name, kept) ∈ insertEntry path setting entries ↔ (name, kept) ∈ entries := by
  induction entries with
  | nil =>
      simp [insertEntry, apart.symm]
  | cons first rest inductionHypothesis =>
      unfold insertEntry
      split
      · next isFirst =>
          have notFirst : (name, kept) ≠ first := fun same => apart (isFirst.trans (same ▸ rfl))
          simp [apart.symm, notFirst]
      · split
        · simp [apart.symm]
        · rw [List.mem_cons, List.mem_cons, inductionHypothesis]

/-- An ordered list has one entry for each path. -/
theorem Ordered.eq_of_mem
    (ordered : Ordered entries)
    {name : String}
    {kept other : Option Bool}
    (member : (name, kept) ∈ entries)
    (otherMember : (name, other) ∈ entries) :
    kept = other := by
  induction entries with
  | nil =>
      cases member
  | cons first rest inductionHypothesis =>
      obtain ⟨firstBefore, restOrdered⟩ := List.pairwise_cons.mp ordered
      rcases List.mem_cons.mp member with rfl | inRest <;>
        rcases List.mem_cons.mp otherMember with isFirst | otherInRest
      · cases isFirst
        rfl
      · exact absurd (firstBefore _ otherInRest) (lt_irrefl _)
      · cases isFirst
        exact absurd (firstBefore _ inRest) (lt_irrefl _)
      · exact inductionHypothesis restOrdered inRest otherInRest

/-- In an ordered list, the first match is the match with the least path. -/
theorem Ordered.find?_eq_some_iff
    (ordered : Ordered entries)
    {test : String × Option Bool → Bool}
    {entry : String × Option Bool} :
    entries.find? test = some entry ↔
      entry ∈ entries ∧ test entry = true ∧
        ∀ other ∈ entries, test other = true → entry.1 ≤ other.1 := by
  induction entries with
  | nil =>
      simp
  | cons first rest inductionHypothesis =>
      obtain ⟨firstBefore, restOrdered⟩ := List.pairwise_cons.mp ordered
      rw [List.find?_cons]
      cases isMatch : test first with
      | true =>
          simp only [Option.some.injEq]
          constructor
          · rintro rfl
            refine ⟨.head _, isMatch, ?_⟩
            intro other member _
            rcases List.mem_cons.mp member with rfl | inRest
            · exact le_refl _
            · exact (firstBefore other inRest).le
          · rintro ⟨member, -, least⟩
            rcases List.mem_cons.mp member with rfl | inRest
            · rfl
            · exact absurd (firstBefore entry inRest) (least first (.head _) isMatch).not_gt
      | false =>
          simp only [inductionHypothesis restOrdered, List.mem_cons]
          constructor
          · rintro ⟨member, entryMatch, least⟩
            refine ⟨.inr member, entryMatch, ?_⟩
            rintro other (rfl | inRest) otherMatch
            · rw [isMatch] at otherMatch
              cases otherMatch
            · exact least other inRest otherMatch
          · rintro ⟨rfl | inRest, entryMatch, least⟩
            · rw [isMatch] at entryMatch
              cases entryMatch
            · exact ⟨inRest, entryMatch, fun other member => least other (.inr member)⟩

end

/-- The entries are in order, and there is one for each path that has a setting. -/
structure Records
    (settings : CaseSettings)
    (setting? : String → Option (Option Bool)) :
    Prop where
  ordered : Ordered settings.fields
  mem_iff :
    ∀ name kept, (name, kept) ∈ settings.fields ↔ setting? name = some kept

/-- An override replaces the setting of its own spelling. -/
theorem Records.withField
    {settings : CaseSettings}
    {setting? : String → Option (Option Bool)}
    (records : settings.Records setting?)
    (path : String)
    (setting : Option Bool) :
    (settings.withField path setting).Records fun name =>
      if path = name then some setting else setting? name where
  ordered := insertEntry_ordered records.ordered
  mem_iff := by
    intro name kept
    by_cases isPath : path = name
    · subst isPath
      rw [if_pos rfl, Option.some.injEq]
      constructor
      · intro member
        exact (insertEntry_ordered records.ordered).eq_of_mem mem_insertEntry_self member
      · rintro rfl
        exact mem_insertEntry_self
    · rw [if_neg isPath, ← records.mem_iff name kept]
      exact mem_insertEntry_of_ne isPath

/-- Of the spellings of a path that have a setting, if there are any, one is the least. -/
theorem Records.exists_least
    {settings : CaseSettings}
    {setting? : String → Option (Option Bool)}
    (records : settings.Records setting?)
    {path name : String}
    (isSet : setting? name ≠ none)
    (isSpelling : namesMatch name path = true) :
    ∃ first,
      setting? first ≠ none ∧ namesMatch first path = true ∧
        ∀ other, namesMatch other path = true → setting? other ≠ none → first ≤ other := by
  obtain ⟨kept, isKept⟩ := Option.ne_none_iff_exists'.mp isSet
  have isSome : (settings.fields.find? fun entry => namesMatch entry.1 path).isSome = true :=
    List.find?_isSome.mpr ⟨(name, kept), (records.mem_iff name kept).mpr isKept, isSpelling⟩
  obtain ⟨⟨first, firstKept⟩, found⟩ := Option.isSome_iff_exists.mp isSome
  obtain ⟨member, firstSpelling, least⟩ := records.ordered.find?_eq_some_iff.mp found
  refine ⟨first, ?_, firstSpelling, ?_⟩
  · rw [(records.mem_iff first firstKept).mp member]
    exact Option.some_ne_none _
  · intro other otherSpelling otherSet
    obtain ⟨otherKept, isOther⟩ := Option.ne_none_iff_exists'.mp otherSet
    exact least (other, otherKept) ((records.mem_iff other otherKept).mpr isOther) otherSpelling

/-- The setting that decides for a path is that of the least spelling of it. -/
theorem Records.settingFor?_eq
    {settings : CaseSettings}
    {setting? : String → Option (Option Bool)}
    (records : settings.Records setting?)
    {path name : String}
    {kept : Option Bool}
    (isSet : setting? name = some kept)
    (isSpelling : namesMatch name path = true)
    (least : ∀ other, namesMatch other path = true → setting? other ≠ none → name ≤ other) :
    settings.settingFor? path = kept := by
  have found :
      (settings.fields.find? fun entry => namesMatch entry.1 path) = some (name, kept) := by
    rw [records.ordered.find?_eq_some_iff]
    refine ⟨(records.mem_iff name kept).mpr isSet, isSpelling, ?_⟩
    rintro ⟨other, otherKept⟩ member otherSpelling
    refine least other otherSpelling ?_
    rw [(records.mem_iff other otherKept).mp member]
    exact Option.some_ne_none _
  exact congrArg (Option.bind · Prod.snd) found

end CaseSettings

namespace Config

/-- Each step keeps record of the setting that an entry was given last. -/
theorem records_apply
    {config : Config}
    {setting? : String → Option (Option Bool)}
    (records : config.settings.Records setting?)
    (step : ConfigStep) :
    (step.apply config).settings.Records fun name =>
      (step.settingOf? name).or (setting? name) := by
  cases step with
  | caseInsensitive =>
      exact ⟨records.ordered, records.mem_iff⟩
  | withStrategy strategy =>
      exact records
  | withField path setting =>
      have replaced :
          (fun name =>
              ((ConfigStep.withField path setting).settingOf? name).or (setting? name)) =
            fun name => if path = name then some setting else setting? name := by
        funext name
        simp only [ConfigStep.settingOf?]
        split <;> rfl
      rw [replaced]
      exact records.withField path setting

theorem records_build (steps : List ConfigStep) :
    (build steps).settings.Records (lastSetting? steps) := by
  induction steps using List.reverseRecOn with
  | nil =>
      exact ⟨.nil, by simp [build, lastSetting?]⟩
  | append_singleton steps step inductionHypothesis =>
      have records := records_apply inductionHypothesis step
      have built : build (steps ++ [step]) = step.apply (build steps) := by
        rw [build, List.foldl_append]
        rfl
      have last :
          lastSetting? (steps ++ [step]) =
            fun name => (step.settingOf? name).or (lastSetting? steps name) := by
        funext name
        rw [lastSetting?, List.reverse_append, List.reverse_singleton, List.singleton_append,
          List.findSome?_cons]
        cases step.settingOf? name <;> rfl
      rw [built, last]
      exact records

/--
An entry stands in front of the one for a path: it was set, it is the path in another
letter case, its spelling comes earlier, and no other such spelling comes before it.
-/
structure Shadows (steps : List ConfigStep) (path shadow : String) : Prop where
  isSet : lastSetting? steps shadow ≠ none
  isSpelling : namesMatch shadow path = true
  isEarlier : shadow < path
  isFirst :
    ∀ other, namesMatch other path = true → lastSetting? steps other ≠ none → shadow ≤ other

/-- A configuration after an override of the entry for a path. -/
def overridden (steps : List ConfigStep) (path : String) (setting : Bool) : Config :=
  (build steps).withField path (some setting)

section

variable
  {steps : List ConfigStep}
  {path spelling : String}
  {setting : Bool}

theorem records_overridden :
    (overridden steps path setting).settings.Records fun name =>
      if path = name then some (some setting) else lastSetting? steps name :=
  (records_build steps).withField path (some setting)

/-- Names that match are matched by the same names. -/
theorem namesMatch_congr_right
    (sameName : namesMatch path spelling = true)
    (name : String) :
    namesMatch name spelling = namesMatch name path := by
  simp only [namesMatch_eq_sameLetters] at sameName ⊢
  exact (sameLetters_congr_right sameName name).symm

/-- The entry in front decides, with the setting that it has. -/
theorem settingFor?_of_shadows
    (sameName : namesMatch path spelling = true)
    {shadow : String}
    (shadows : Shadows steps path shadow)
    {kept : Option Bool}
    (isKept : lastSetting? steps shadow = some kept) :
    (overridden steps path setting).settings.settingFor? spelling = kept := by
  have isRecorded :
      (if path = shadow then some (some setting) else lastSetting? steps shadow) = some kept := by
    rw [if_neg shadows.isEarlier.ne']
    exact isKept
  refine records_overridden.settingFor?_eq isRecorded ?_ ?_
  · rw [namesMatch_congr_right sameName]
    exact shadows.isSpelling
  · intro other isSpelling isSet
    rw [namesMatch_congr_right sameName] at isSpelling
    by_cases isPath : path = other
    · exact isPath ▸ shadows.isEarlier.le
    · rw [if_neg isPath] at isSet
      exact shadows.isFirst other isSpelling isSet

/-- Without an entry in front, the override decides. -/
theorem settingFor?_of_not_shadows
    (sameName : namesMatch path spelling = true)
    (unshadowed : ∀ shadow, ¬ Shadows steps path shadow) :
    (overridden steps path setting).settings.settingFor? spelling = some setting := by
  have matchesItself : namesMatch path path = true := by
    rw [namesMatch_eq_sameLetters, sameLetters_refl]
  have isRecorded :
      (if path = path then some (some setting) else lastSetting? steps path) =
        some (some setting) :=
    if_pos rfl
  have isSet :
      (if path = path then some (some setting) else lastSetting? steps path) ≠ none := by
    rw [isRecorded]
    exact Option.some_ne_none _
  obtain ⟨first, firstSet, isSpelling, least⟩ :=
    records_overridden.exists_least isSet matchesItself
  have isPath : first = path := by
    by_contra notPath
    have notRecorded : ¬ path = first := fun same => notPath same.symm
    refine unshadowed first ⟨?_, isSpelling, ?_, ?_⟩
    · rw [if_neg notRecorded] at firstSet
      exact firstSet
    · exact lt_of_le_of_ne (least path matchesItself isSet) notPath
    · intro other otherSpelling otherSet
      refine least other otherSpelling ?_
      split
      · exact Option.some_ne_none _
      · exact otherSet
  subst isPath
  refine records_overridden.settingFor?_eq isRecorded ?_ ?_
  · rw [namesMatch_congr_right sameName]
    exact matchesItself
  · intro other otherSpelling otherSet
    rw [namesMatch_congr_right sameName] at otherSpelling
    exact least other otherSpelling otherSet

end

/--
An override takes effect, for the path in any letter case and whatever is declared or
the default, exactly if the entry in front of it, if there is one, has the same setting.
If there is one in front, that entry decides: its setting counts, or what is declared,
or the default.
-/
theorem override_takesEffect_iff
    (steps : List ConfigStep)
    (path : String)
    (setting : Bool)
    {spelling : String}
    (sameName : namesMatch path spelling = true) :
    ((∀ declared,
          (overridden steps path setting).settings.caseSensitiveFor spelling declared =
            setting) ↔
        ∀ shadow, Shadows steps path shadow → lastSetting? steps shadow = some (some setting)) ∧
      (∀ shadow kept,
        Shadows steps path shadow →
        lastSetting? steps shadow = some kept →
          ∀ declared,
            (overridden steps path setting).settings.caseSensitiveFor spelling declared =
              (kept.or declared).getD (build steps).settings.caseSensitive) := by
  have decided :
      ∀ shadow kept,
        Shadows steps path shadow →
        lastSetting? steps shadow = some kept →
          ∀ declared,
            (overridden steps path setting).settings.caseSensitiveFor spelling declared =
              (kept.or declared).getD (build steps).settings.caseSensitive := by
    intro shadow kept shadows isKept declared
    rw [CaseSettings.caseSensitiveFor, settingFor?_of_shadows sameName shadows isKept]
    rfl
  refine ⟨⟨?_, ?_⟩, decided⟩
  · intro takesEffect shadow shadows
    obtain ⟨kept, isKept⟩ := Option.ne_none_iff_exists'.mp shadows.isSet
    -- An entry that leaves the question open gives way to a declaration of the contrary.
    have contrary := takesEffect (some !setting)
    rw [decided shadow kept shadows isKept] at contrary
    cases kept with
    | none =>
        simp at contrary
    | some other =>
        rw [isKept, ← contrary]
        rfl
  · intro agreeing declared
    by_cases shadowed : ∃ shadow, Shadows steps path shadow
    · obtain ⟨shadow, shadows⟩ := shadowed
      rw [decided shadow _ shadows (agreeing shadow shadows)]
      rfl
    · rw [CaseSettings.caseSensitiveFor,
        settingFor?_of_not_shadows sameName (not_exists.mp shadowed)]
      rfl

/-- The override of a city in capitals, which a later one of the city does not replace. -/
def capitalCity : List ConfigStep :=
  [.withField "City" (some true)]

/-- Letter case goes on to count for cities after an override that says it does not. -/
theorem override_takesEffect_iff_capitalCity :
    namesMatch "city" "city" = true ∧
      (overridden capitalCity "city" false).settings.caseSensitiveFor "city" none = true ∧
        ¬ ∀ declared,
          (overridden capitalCity "city" false).settings.caseSensitiveFor "city" declared =
            false := by
  have onlyCapital (name : String) (isSet : lastSetting? capitalCity name ≠ none) :
      name = "City" := by
    by_contra apart
    simp [lastSetting?, capitalCity, ConfigStep.settingOf?, Ne.symm apart] at isSet
  have shadows : Shadows capitalCity "city" "City" := by
    refine ⟨by simp [lastSetting?, capitalCity, ConfigStep.settingOf?], rfl, by decide, ?_⟩
    intro other _ isSet
    exact (onlyCapital other isSet).ge
  have matchesItself : namesMatch "city" "city" = true := rfl
  obtain ⟨takesEffect, decided⟩ :=
    override_takesEffect_iff capitalCity "city" false matchesItself
  refine ⟨matchesItself, decided "City" (some true) shadows rfl none, ?_⟩
  rw [takesEffect]
  intro agreeing
  cases agreeing "City" shadows

end Config

end FieldSearch
