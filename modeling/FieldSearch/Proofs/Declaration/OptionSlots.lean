import FieldSearch.Proofs.Declaration.WrittenOptions

namespace FieldSearch.Declaration

/-!
# Slots of options

Each option of a search attribute fills one of four slots: the kind of the field, the
name to query it by, its treatment of letter case, and whether it is left out. An
option overrides the earlier ones for its own slot and leaves the other slots alone.
What a list of options says is therefore what the last one for each slot says
(`SearchOptions.SaysLast`), and depends only on the options of each slot in order.
-/

open Outcomes

namespace SearchOption

/-- What an option decides about a field. -/
inductive Slot where
  | kind
  | rename
  | letterCase
  | skip
  deriving Repr, DecidableEq

/-- The slot of an option. -/
def slot : SearchOption → Slot
  | .kind _ => .kind
  | .rename _ => .rename
  | .caseSensitive _ => .letterCase
  | .skip => .skip

/-- The name that an option gives. -/
def rename? : SearchOption → Option String
  | .rename name => some name
  | _ => none

/-- The treatment of letter case that an option asks for. -/
def caseSensitive? : SearchOption → Option Bool
  | .caseSensitive setting => some setting
  | _ => none

section

variable
  {option : SearchOption}

theorem kind?_eq_none (notKind : option.slot ≠ .kind) : option.kind? = none := by
  cases option <;> simp [slot, kind?] at notKind ⊢

theorem rename?_eq_none (notRename : option.slot ≠ .rename) : option.rename? = none := by
  cases option <;> simp [slot, rename?] at notRename ⊢

theorem caseSensitive?_eq_none (notLetterCase : option.slot ≠ .letterCase) :
    option.caseSensitive? = none := by
  cases option <;> simp [slot, caseSensitive?] at notLetterCase ⊢

end

end SearchOption

namespace SearchOptions

/-- What is said is what the last option for each slot says. -/
structure SaysLast (said : SearchOptions) (options : List SearchOption) : Prop where
  kind_eq : said.kind = (options.filterMap SearchOption.kind?).getLast?
  rename_eq : said.rename = (options.filterMap SearchOption.rename?).getLast?
  caseSensitive_eq :
    said.caseSensitive = (options.filterMap SearchOption.caseSensitive?).getLast?
  skip_iff : said.skip = true ↔ .skip ∈ options

/-- Lists of options have the same options for each slot, in the same order. -/
def SameSlots (options others : List SearchOption) : Prop :=
  ∀ slot : SearchOption.Slot,
    options.filter (·.slot = slot) = others.filter (·.slot = slot)

/-! The last option for a slot counts. -/

theorem saysLast_foldl_add (options : List SearchOption) :
    (options.foldl add {}).SaysLast options := by
  constructor
  · rw [kind_foldl_add, Option.or_none]
  · rw [field_foldl_add rename SearchOption.rename?, Option.or_none]
    rintro said (_ | _ | _ | _) <;> rfl
  · rw [field_foldl_add caseSensitive SearchOption.caseSensitive?, Option.or_none]
    rintro said (_ | _ | _ | _) <;> rfl
  · simp [skip_foldl_add_iff]

theorem SaysLast.unique
    {said other : SearchOptions}
    {options : List SearchOption}
    (saysLast : said.SaysLast options)
    (otherSaysLast : other.SaysLast options) :
    said = other := by
  have sameSkip : said.skip = other.skip := by
    rw [Bool.eq_iff_iff, saysLast.skip_iff, otherSaysLast.skip_iff]
  cases said
  cases other
  simp only [mk.injEq]
  exact ⟨saysLast.kind_eq.trans otherSaysLast.kind_eq.symm,
    saysLast.rename_eq.trans otherSaysLast.rename_eq.symm,
    saysLast.caseSensitive_eq.trans otherSaysLast.caseSensitive_eq.symm, sameSkip⟩

/-- Valid options that are listed say what the last one for each slot says. -/
theorem ofArguments_eq_ok_iff
    {arguments : List Token}
    {parsed : SearchOptions} :
    ofArguments arguments = .ok parsed ↔
      ∃ options, Listed options arguments ∧ parsed.SaysLast options := by
  constructor
  · intro reads
    obtain ⟨items, listsItems, combines⟩ := bind_eq_ok.mp reads
    obtain ⟨options, areOptions, ⟨⟩⟩ := bind_eq_ok.mp combines
    have lists : listed arguments = .ok options := bind_eq_ok.mpr ⟨items, listsItems, areOptions⟩
    exact ⟨options, listed_eq_ok_iff.mp lists, saysLast_foldl_add options⟩
  · rintro ⟨options, lists, saysLast⟩
    rw [ofArguments_of_listed (listed_eq_ok_iff.mpr lists)]
    exact congrArg Except.ok ((saysLast_foldl_add options).unique saysLast)

/-- Items that are listed fail with the first one that is no valid option. -/
theorem ofArguments_eq_error_iff
    {arguments : List Token}
    {items : List Item}
    (listsItems : Item.listOf arguments = .ok items)
    (failure : DeriveError) :
    ofArguments arguments = .error failure ↔ FailsFirst SearchOption.ofItem items failure := by
  rw [ofArguments, listsItems, ← mapM_eq_error_iff]
  change items.mapM SearchOption.ofItem >>= _ = _ ↔ _
  rw [bind_eq_error]
  simp [pure, Except.pure]

/-! Options in another order. -/

/-- What options say of a slot is what its own options say. -/
theorem filterMap_filter_slot
    {part : SearchOption → Option α}
    {slot : SearchOption.Slot}
    (isOfSlot : ∀ option, option.slot ≠ slot → part option = none)
    (options : List SearchOption) :
    (options.filter (·.slot = slot)).filterMap part = options.filterMap part := by
  rw [List.filterMap_filter]
  congr 1
  funext option
  by_cases same : option.slot = slot
  · simp [same]
  · simp [same, isOfSlot option same]

theorem filterMap_eq_of_sameSlots
    {options others : List SearchOption}
    (same : SameSlots options others)
    {part : SearchOption → Option α}
    {slot : SearchOption.Slot}
    (isOfSlot : ∀ option, option.slot ≠ slot → part option = none) :
    options.filterMap part = others.filterMap part := by
  rw [← filterMap_filter_slot isOfSlot, same, filterMap_filter_slot isOfSlot]

theorem SaysLast.of_sameSlots
    {said : SearchOptions}
    {options others : List SearchOption}
    (saysLast : said.SaysLast options)
    (same : SameSlots options others) :
    said.SaysLast others := by
  constructor
  · rw [← filterMap_eq_of_sameSlots same fun _ => SearchOption.kind?_eq_none]
    exact saysLast.kind_eq
  · rw [← filterMap_eq_of_sameSlots same fun _ => SearchOption.rename?_eq_none]
    exact saysLast.rename_eq
  · rw [← filterMap_eq_of_sameSlots same fun _ => SearchOption.caseSensitive?_eq_none]
    exact saysLast.caseSensitive_eq
  · have ofSlot (list : List SearchOption) :
        .skip ∈ list.filter (·.slot = .skip) ↔ .skip ∈ list := by
      simp [List.mem_filter, SearchOption.slot]
    rw [saysLast.skip_iff, ← ofSlot options, same, ofSlot others]

/-! What arguments say, and why they fail. -/

/--
Options in one search attribute fill slots of their own. The arguments are accepted
exactly if they list valid options, and then say what the last option for each slot
says. They say the same with the options of different slots in another order, and with
a comma after the last option. If the arguments are a list of items at all, one of which
is no valid option, they fail, and the first such item decides the error, whatever
follows it.
-/
theorem ofArguments_bySlots (arguments : List Token) :
    (∀ parsed,
      ofArguments arguments = .ok parsed ↔
        ∃ options, Listed options arguments ∧ parsed.SaysLast options) ∧
      (∀ options others otherArguments,
        Listed options arguments →
          Listed others otherArguments →
            SameSlots options others →
              ofArguments otherArguments = ofArguments arguments) ∧
        (∀ last isJoint parsed,
          arguments.getLast? = some last →
            last.isMark ',' = false →
              (ofArguments (arguments ++ [.atom (.mark ',' isJoint)]) = .ok parsed ↔
                ofArguments arguments = .ok parsed)) ∧
          ∀ items,
            Item.listOf arguments = .ok items →
              (∀ failure,
                ofArguments arguments = .error failure ↔
                  FailsFirst SearchOption.ofItem items failure) ∧
                ∀ item ∈ items, ∀ own,
                  SearchOption.ofItem item = .error own →
                    ∃ failure, ofArguments arguments = .error failure := by
  refine ⟨fun parsed => ofArguments_eq_ok_iff, ?_, ?_, ?_⟩
  · intro options others otherArguments lists listsOthers same
    have saysLast := (saysLast_foldl_add options).of_sameSlots same
    rw [ofArguments_eq_ok_iff.mpr ⟨options, lists, saysLast_foldl_add options⟩]
    exact ofArguments_eq_ok_iff.mpr ⟨others, listsOthers, saysLast⟩
  · intro last isJoint parsed isLast notComma
    rw [ofArguments_eq_ok_iff, ofArguments_eq_ok_iff]
    constructor
    · rintro ⟨options, lists, saysLast⟩
      exact ⟨options, lists.of_append_comma isLast, saysLast⟩
    · rintro ⟨options, lists, saysLast⟩
      exact ⟨options, lists.append_comma isLast notComma isJoint, saysLast⟩
  · intro items listsItems
    have fails := ofArguments_eq_error_iff listsItems
    refine ⟨fails, ?_⟩
    intro item member own failed
    obtain ⟨failure, failsFirst⟩ := exists_failsFirst_of_mem member failed
    exact ⟨failure, (fails failure).mpr failsFirst⟩

/-- The options of a text with a name of its own, without regard to letter case. -/
def labels : List Token :=
  [word "Text", mark ',', word "rename", mark '=', .atom (.string "labels" "\"labels\""),
    mark ',', word "case_insensitive"]

/-- The same options in the opposite order. -/
def labelsReversed : List Token :=
  [word "case_insensitive", mark ',', word "rename", mark '=',
    .atom (.string "labels" "\"labels\""), mark ',', word "Text"]

/-- A kind that there is not, before an option with a value that is no string. -/
def unknownFirst : List Token :=
  [word "Uuid", mark ',', word "rename", mark '=', word "Text"]

set_option maxRecDepth 4000 in
theorem ofArguments_bySlots_labels :
    ofArguments labels =
        .ok { kind := some .text, rename := some "labels", caseSensitive := some false } ∧
      ofArguments labelsReversed = ofArguments labels ∧
        ofArguments (labels ++ [mark ',']) = ofArguments labels ∧
          ofArguments unknownFirst = .error (.unknownKind "Uuid") := by
  obtain ⟨accepts, reorders, ignoresComma, -⟩ := ofArguments_bySlots labels
  have lists : Listed [.kind .text, .rename "labels", .caseSensitive false] labels :=
    listed_eq_ok_iff.mp rfl
  have listsReversed :
      Listed [.caseSensitive false, .rename "labels", .kind .text] labelsReversed :=
    listed_eq_ok_iff.mp rfl
  have same :
      SameSlots [.kind .text, .rename "labels", .caseSensitive false]
        [.caseSensitive false, .rename "labels", .kind .text] := by
    rintro (_ | _ | _ | _) <;> rfl
  have parsed :
      ofArguments labels =
        .ok { kind := some .text, rename := some "labels", caseSensitive := some false } :=
    (accepts _).mpr ⟨_, lists, rfl, rfl, rfl, by simp⟩
  refine ⟨parsed, reorders _ _ _ lists listsReversed same, ?_, ?_⟩
  · rw [parsed]
    exact (ignoresComma (word "case_insensitive") false _ rfl rfl).mpr parsed
  · obtain ⟨-, -, -, fails⟩ := ofArguments_bySlots unknownFirst
    obtain ⟨failsWith, -⟩ :=
      fails [.path (.single "Uuid"), .assignment (.single "rename") .other] rfl
    exact (failsWith _).mpr ⟨[], _, _, rfl, by simp, rfl⟩

end SearchOptions

end FieldSearch.Declaration
