import FieldSearch.Proofs.Declaration.Expansion

namespace FieldSearch.Declaration

/-!
# Fields that are left out

A field may carry several search attributes, with other attributes between them. Only
the first one counts. Its options leave the field out if `skip` is among them, in
whatever place, or if none of them names a kind; `skip` in a later attribute is not seen.
-/

/-- The kind that an option names. -/
def SearchOption.kind? : SearchOption → Option SearchKind
  | .kind found => some found
  | _ => none

namespace SearchOptions

/-- The options that the arguments of a search attribute list. -/
def listed (arguments : List Token) : Except DeriveError (List SearchOption) := do
  (← Item.listOf arguments).mapM SearchOption.ofItem

/-- The search attributes among some attributes are well formed, with their options in order. -/
inductive Carried : List (List Token) → List (List SearchOption) → Prop where
  | none :
      Carried [] []
  | other
      {tokens : List Token}
      {attributes : List (List Token)}
      {lists : List (List SearchOption)} :
      afterName? tokens = .none →
      Carried attributes lists →
      Carried (tokens :: attributes) lists
  | search
      {tokens arguments : List Token}
      {bracket : Bracket}
      {options : List SearchOption}
      {attributes : List (List Token)}
      {lists : List (List SearchOption)} :
      afterName? tokens = some [.group bracket arguments] →
      listed arguments = .ok options →
      Carried attributes lists →
      Carried (tokens :: attributes) (options :: lists)

theorem ofArguments_of_listed
    {arguments : List Token}
    {options : List SearchOption}
    (lists : listed arguments = .ok options) :
    ofArguments arguments = .ok (options.foldl add {}) := by
  obtain ⟨items, readItems, interpreted⟩ := Outcomes.bind_eq_ok.mp lists
  simp only [ofArguments, readItems, ofItems, bind, Except.bind, interpreted, pure, Except.pure]

/-- Only the first search attribute counts. -/
theorem ofAttributes_of_carried
    {attributes : List (List Token)}
    {first : List SearchOption}
    {later : List (List SearchOption)}
    (carried : Carried attributes (first :: later)) :
    ofAttributes attributes = .ok (first.foldl add {}) := by
  generalize same : first :: later = lists at carried
  induction carried with
  | none =>
      cases same
  | other isOther rest inductionHypothesis =>
      have unchanged := inductionHypothesis same
      rw [ofAttributes] at unchanged ⊢
      rw [List.findSome?_cons, isOther]
      exact unchanged
  | search isSearch isListed rest inductionHypothesis =>
      cases same
      rw [ofAttributes, List.findSome?_cons, isSearch]
      exact ofArguments_of_listed isListed

theorem skip_foldl_add_iff
    (options : List SearchOption)
    (start : SearchOptions) :
    (options.foldl add start).skip = true ↔ start.skip = true ∨ .skip ∈ options := by
  induction options generalizing start with
  | nil =>
      simp
  | cons option rest inductionHypothesis =>
      rw [List.foldl_cons, inductionHypothesis]
      cases option <;> simp [add]

/--
A field of the options that an option sets if it is for that field, and leaves alone
otherwise, is set by the last option for it.
-/
theorem field_foldl_add
    (field : SearchOptions → Option α)
    (part : SearchOption → Option α)
    (field_add : ∀ said option, field (add said option) = (part option).or (field said))
    (options : List SearchOption)
    (start : SearchOptions) :
    field (options.foldl add start) = ((options.filterMap part).getLast?).or (field start) := by
  induction options generalizing start with
  | nil =>
      simp
  | cons option rest inductionHypothesis =>
      rw [List.foldl_cons, inductionHypothesis, field_add, ← Option.or_assoc]
      congr 1
      cases isPart : part option with
      | none =>
          rw [List.filterMap_cons_none isPart, Option.or_none]
      | some value =>
          rw [List.filterMap_cons_some isPart, List.getLast?_cons]
          cases (rest.filterMap part).getLast? <;> rfl

theorem kind_foldl_add
    (options : List SearchOption)
    (start : SearchOptions) :
    (options.foldl add start).kind =
      ((options.filterMap SearchOption.kind?).getLast?).or start.kind := by
  apply field_foldl_add kind SearchOption.kind?
  rintro said (_ | _ | _ | _) <;> rfl

theorem kind_foldl_add_eq_none_iff
    (options : List SearchOption)
    (start : SearchOptions) :
    (options.foldl add start).kind = none ↔
      start.kind = none ∧ ∀ kind, .kind kind ∉ options := by
  have noKind : options.filterMap SearchOption.kind? = [] ↔ ∀ kind, .kind kind ∉ options := by
    rw [List.filterMap_eq_nil_iff]
    constructor
    · intro absent kind named
      cases absent _ named
    · intro absent option member
      cases option with
      | kind kind =>
          exact absurd member (absent kind)
      | rename name | caseSensitive setting | skip =>
          rfl
  rw [kind_foldl_add, Option.or_eq_none_iff, List.getLast?_eq_none_iff, noKind, and_comm]

/-- Options leave a field out if one of them says so or none names a kind. -/
theorem leftOut_foldl_add_iff (options : List SearchOption) :
    (options.foldl add {}).skip = true ∨ (options.foldl add {}).kind = none ↔
      .skip ∈ options ∨ ∀ kind, .kind kind ∉ options := by
  rw [skip_foldl_add_iff, kind_foldl_add_eq_none_iff]
  simp

end SearchOptions

section

variable
  {front back : List FieldDeclaration}
  {field : FieldDeclaration}
  {expansion : Expansion}

/-- What is generated for fields is made up of what each part of them gives. -/
theorem exists_parts_of_expandFields
    (expands : expandFields (front ++ field :: back) = .ok expansion) :
    ∃ first own second,
      expandFields front = .ok first ∧
        expandFields [field] = .ok own ∧
          expandFields back = .ok second ∧ expansion = first ++ (own ++ second) := by
  obtain ⟨first, rest, ofFront, ofRest, rfl⟩ := expandFields_append_eq_ok_iff.mp expands
  rw [← List.singleton_append] at ofRest
  obtain ⟨own, second, ofField, ofBack, rfl⟩ := expandFields_append_eq_ok_iff.mp ofRest
  exact ⟨first, own, second, ofFront, ofField, ofBack, rfl⟩

/-- A field that is not left out makes a difference. -/
theorem expandFields_ne_of_kind
    (expands : expandFields (front ++ field :: back) = .ok expansion)
    {options : SearchOptions}
    (reads : SearchOptions.ofAttributes field.attributes = .ok options)
    (notSkipped : options.skip = false)
    {kind : SearchKind}
    (hasKind : options.kind = some kind) :
    expandFields (front ++ back) ≠ .ok expansion := by
  obtain ⟨first, own, second, ofFront, ofField, ofBack, rfl⟩ :=
    exists_parts_of_expandFields expands
  have contributes :=
    FieldDeclaration.contributes_of_expandFields reads notSkipped hasKind ofField
  intro without
  obtain ⟨start, rest, ofStart, ofRest, same⟩ := expandFields_append_eq_ok_iff.mp without
  rw [ofFront] at ofStart
  rw [ofBack] at ofRest
  cases ofStart
  cases ofRest
  have counted := congrArg (fun whole => whole.constants.length) same
  simp [contributes.constants_eq] at counted

end

/--
A field of a struct contributes nothing exactly if its first search attribute has
`skip` among its options or names no kind, whatever its later ones say.
-/
theorem excluded_iff
    (declaration : Declaration)
    (before after : List FieldDeclaration)
    (field : FieldDeclaration)
    (split : declaration.fields = before ++ field :: after)
    {expansion : Expansion}
    (expands : declaration.expand = .ok expansion)
    {first : List SearchOption}
    {later : List (List SearchOption)}
    (carried : SearchOptions.Carried field.attributes (first :: later)) :
    (declaration.withFields (before ++ after)).expand = .ok expansion ↔
      .skip ∈ first ∨ ∀ kind, .kind kind ∉ first := by
  have isStruct := isStruct_of_expand expands
  have reads := SearchOptions.ofAttributes_of_carried carried
  rw [expand_of_isStruct isStruct, split] at expands
  rw [expand_withFields isStruct, ← SearchOptions.leftOut_foldl_add_iff]
  constructor
  · intro without
    by_contra searched
    rw [not_or, Bool.not_eq_true] at searched
    obtain ⟨notSkipped, hasKind⟩ := searched
    obtain ⟨kind, isKind⟩ := Option.ne_none_iff_exists'.mp hasKind
    exact expandFields_ne_of_kind expands reads notSkipped isKind without
  · intro leftOut
    rw [← FieldDeclaration.expandFields_insert_of_leftOut reads leftOut]
    exact expands

/-- Accounts with a secret that is to be left out, by an attribute of its own. -/
def account : Declaration where
  sort := .struct
  name := "Account"
  parameters := []
  fields := [
    { name := "owner", type := [word "String"], attributes := [searchable [word "Text"]] },
    { name := "secret", type := [word "String"],
      attributes := [
        [word "serde", .group .round [word "skip"]],
        searchable [word "Text"],
        searchable [word "skip"]] }]

/-- The note of an account, left out by the first of two search attributes. -/
def accountNote : FieldDeclaration where
  name := "note"
  type := [word "String"]
  attributes := [searchable [word "Text", mark ',', word "skip"], searchable [word "Text"]]

set_option maxRecDepth 4000 in
/-- The secret of an account is searchable all the same, and a note is not. -/
theorem excluded_iff_secret :
    (∃ expansion,
      account.expand = .ok expansion ∧
        (account.withFields [account.fields[0]]).expand ≠ .ok expansion) ∧
      ∃ expansion,
        (account.withFields [account.fields[0], accountNote]).expand = .ok expansion ∧
          (account.withFields [account.fields[0]]).expand = .ok expansion := by
  constructor
  · refine ⟨_, rfl, ?_⟩
    have carried :
        SearchOptions.Carried account.fields[1].attributes [[.kind .text], [.skip]] :=
      .other rfl (.search rfl rfl (.search rfl rfl .none))
    have excluded :=
      excluded_iff account [account.fields[0]] [] account.fields[1] rfl rfl carried
    intro without
    rcases excluded.mp without with skipped | noKind
    · simp at skipped
    · exact noKind .text (by simp)
  · refine ⟨_, rfl, ?_⟩
    have carried :
        SearchOptions.Carried accountNote.attributes [[.kind .text, .skip], [.kind .text]] :=
      .search rfl rfl (.search rfl rfl .none)
    let annotated := account.withFields [account.fields[0], accountNote]
    have excluded :=
      excluded_iff annotated [account.fields[0]] [] accountNote rfl rfl carried
    exact excluded.mpr (.inl (by simp))

end FieldSearch.Declaration
