import FieldSearch.Proofs.Declaration.Schema

namespace FieldSearch.Declaration

open Outcomes

/-!
# What is generated, field by field

What is generated for a declaration is collected by going through its fields in
order. A step only adds to the end of what has been collected, and what it adds
depends on the field alone. Therefore the outcome for two lists of fields, one after
the other, is that for the first followed by that for the second, and the first
field on which a step fails decides the error.
-/

/-- The declaration with other fields. -/
def withFields (declaration : Declaration) (fields : List FieldDeclaration) : Declaration :=
  { declaration with fields := fields }

namespace FieldDeclaration

/-- The name that searches use for a field with the given options. -/
def queryName (field : FieldDeclaration) (options : SearchOptions) : String :=
  options.rename.getD field.name

/-- The arm that reads a field with the given options for one form of path. -/
def arm
    (field : FieldDeclaration)
    (options : SearchOptions)
    (isRest : Bool)
    (conversion : Conversion) :
    Arm where
  name := field.queryName options
  isRest := isRest
  field := field.name
  optional := (Storage.ofType field.type).optional
  list := (Storage.ofType field.type).isList
  conversion := conversion

/--
A field of the given kind contributes one constant, one schema entry and one arm of
its own, which carry its names, and an arm for longer paths just if it is an entity.
-/
structure Contributes
    (field : FieldDeclaration)
    (options : SearchOptions)
    (kind : SearchKind)
    (own : Expansion) : Prop where
  constants_eq :
    own.constants =
      [{ name := constantName (field.queryName options), value := field.queryName options }]
  entries_eq :
    ∃ declared,
      declaredType kind (Storage.ofType field.type) = .ok declared ∧
        own.entries =
          [{ named := ⟨field.queryName options, declared, options.caseSensitive⟩
             stored := ⟨field.name, (Storage.ofType field.type).container⟩ }]
  arms_eq :
    own.arms =
      field.arm options false (.byKind kind) ::
        if kind = .entity then [field.arm options true .nested] else []

end FieldDeclaration

namespace Expansion

/-- Two expansions, one after the other. -/
def append (first second : Expansion) : Expansion where
  constants := first.constants ++ second.constants
  entries := first.entries ++ second.entries
  arms := first.arms ++ second.arms

instance : Append Expansion := ⟨append⟩

@[simp] theorem constants_append (first second : Expansion) :
    (first ++ second).constants = first.constants ++ second.constants :=
  rfl

@[simp] theorem entries_append (first second : Expansion) :
    (first ++ second).entries = first.entries ++ second.entries :=
  rfl

@[simp] theorem arms_append (first second : Expansion) :
    (first ++ second).arms = first.arms ++ second.arms :=
  rfl

theorem append_empty (expansion : Expansion) : expansion ++ ({} : Expansion) = expansion := by
  ext1 <;> simp

theorem append_assoc (first second third : Expansion) :
    first ++ second ++ third = first ++ (second ++ third) := by
  ext1 <;> simp

/-- What is generated for a field, given what is derived from it. -/
def ofDerived : Option DerivedField → Expansion
  | none => {}
  | some derived =>
      { constants := [derived.toConstant], entries := [derived.toEntry], arms := derived.arms }

/-- What is generated for derived fields. -/
def ofFields (fields : List DerivedField) : Expansion where
  constants := fields.map (·.toConstant)
  entries := fields.map (·.toEntry)
  arms := fields.flatMap (·.arms)

/-- A step adds what the field alone gives to the end. -/
theorem add_eq (expansion : Expansion) (field : FieldDeclaration) :
    expansion.add field = field.derive.map (expansion ++ ofDerived ·) := by
  unfold add
  cases field.derive with
  | error failure =>
      rfl
  | ok outcome =>
      cases outcome with
      | none =>
          exact congrArg Except.ok expansion.append_empty.symm
      | some derived =>
          rfl

/-- A step leaves alone what has been collected before. -/
theorem append_add (first second : Expansion) (field : FieldDeclaration) :
    (first ++ second).add field = (second.add field).map (first ++ ·) := by
  rw [add_eq, add_eq]
  cases field.derive with
  | error failure =>
      rfl
  | ok outcome =>
      exact congrArg Except.ok (append_assoc first second (ofDerived outcome))

/-- So does going through any number of fields. -/
theorem foldlM_append_add
    (fields : List FieldDeclaration)
    (first second : Expansion) :
    fields.foldlM add (first ++ second) = (fields.foldlM add second).map (first ++ ·) := by
  induction fields generalizing second with
  | nil =>
      rfl
  | cons field rest inductionHypothesis =>
      rw [List.foldlM_cons, List.foldlM_cons, append_add]
      cases second.add field with
      | error failure =>
          rfl
      | ok next =>
          exact inductionHypothesis next

end Expansion

section

variable
  {front back fields : List FieldDeclaration}
  {expansion : Expansion}
  {failure : DeriveError}

/-- The fields behind others are gone through after these. -/
theorem expandFields_append (front back : List FieldDeclaration) :
    expandFields (front ++ back) =
      expandFields front >>= fun first => (expandFields back).map (first ++ ·) := by
  rw [expandFields, List.foldlM_append]
  apply bind_congr
  intro first
  have appended := Expansion.foldlM_append_add back first {}
  rw [first.append_empty] at appended
  exact appended

theorem expandFields_append_eq_ok_iff :
    expandFields (front ++ back) = .ok expansion ↔
      ∃ first second,
        expandFields front = .ok first ∧
          expandFields back = .ok second ∧ expansion = first ++ second := by
  rw [expandFields_append, bind_eq_ok]
  constructor
  · rintro ⟨first, ofFront, later⟩
    obtain ⟨second, ofBack, rfl⟩ := map_eq_ok.mp later
    exact ⟨first, second, ofFront, ofBack, rfl⟩
  · rintro ⟨first, second, ofFront, ofBack, rfl⟩
    exact ⟨first, ofFront, map_eq_ok.mpr ⟨second, ofBack, rfl⟩⟩

theorem expandFields_singleton (field : FieldDeclaration) :
    expandFields [field] = field.derive.map Expansion.ofDerived := by
  rw [expandFields, List.foldlM_cons, Expansion.add_eq]
  cases field.derive <;> rfl

/-- The first field that fails alone decides the error. -/
theorem expandFields_eq_error_iff :
    expandFields fields = .error failure ↔
      FailsFirst (fun field => expandFields [field]) fields failure := by
  induction fields with
  | nil =>
      constructor
      · rintro ⟨⟩
      · intro failsFirst
        exact absurd failsFirst not_failsFirst_nil
  | cons field rest inductionHypothesis =>
      rw [← List.singleton_append, expandFields_append, bind_eq_error, List.singleton_append]
      cases alone : expandFields [field] with
      | error own =>
          refine Iff.trans ?_ (Iff.symm (failsFirst_cons_of_error alone))
          simp
      | ok own =>
          refine Iff.trans ?_ (Iff.symm (failsFirst_cons_of_ok alone))
          simp [map_eq_error, inductionHypothesis]

end

/-- What is generated is generated from what is derived. -/
theorem expandFields_eq (fields : List FieldDeclaration) :
    expandFields fields = (deriveFields fields).map Expansion.ofFields := by
  induction fields with
  | nil =>
      rfl
  | cons field rest inductionHypothesis =>
      rw [← List.singleton_append, expandFields_append, expandFields_singleton,
        inductionHypothesis, List.singleton_append, deriveFields, deriveFields, List.mapM_cons]
      cases field.derive with
      | error failure =>
          rfl
      | ok outcome =>
          cases rest.mapM FieldDeclaration.derive with
          | error failure =>
              rfl
          | ok outcomes =>
              cases outcome <;> rfl

theorem expand_eq (declaration : Declaration) :
    declaration.expand = declaration.derive.map Expansion.ofFields := by
  unfold expand derive
  cases declaration.sort with
  | struct =>
      exact expandFields_eq declaration.fields
  | tuple | unit | enumeration | union =>
      rfl

section

variable
  {declaration : Declaration}
  {fields : List FieldDeclaration}

theorem expand_of_isStruct (isStruct : declaration.sort = .struct) :
    declaration.expand = expandFields declaration.fields := by
  rw [expand, isStruct]

theorem expand_withFields
    (isStruct : declaration.sort = .struct)
    (fields : List FieldDeclaration) :
    (declaration.withFields fields).expand = expandFields fields :=
  expand_of_isStruct isStruct

theorem isStruct_of_expand
    {expansion : Expansion}
    (expands : declaration.expand = .ok expansion) :
    declaration.sort = .struct := by
  unfold expand at expands
  split at expands
  · assumption
  all_goals cases expands

end

namespace FieldDeclaration

variable
  {field : FieldDeclaration}
  {options : SearchOptions}

/-- Nothing is derived from a field that is left out or has no kind. -/
theorem derive_of_leftOut
    (reads : SearchOptions.ofAttributes field.attributes = .ok options)
    (leftOut : options.skip = true ∨ options.kind = none) :
    field.derive = .ok none := by
  unfold derive
  rw [reads]
  rcases leftOut with skipped | noKind
  · simp [bind, Except.bind, skipped, pure, Except.pure]
  · simp [bind, Except.bind, noKind, pure, Except.pure]

theorem derive_of_kind
    (reads : SearchOptions.ofAttributes field.attributes = .ok options)
    (notSkipped : options.skip = false)
    {kind : SearchKind}
    (hasKind : options.kind = some kind) :
    field.derive = (field.deriveAs options kind).map some := by
  unfold derive
  rw [reads]
  simp only [bind, Except.bind, notSkipped, hasKind]
  cases field.deriveAs options kind <;> rfl

theorem expandFields_of_leftOut
    (reads : SearchOptions.ofAttributes field.attributes = .ok options)
    (leftOut : options.skip = true ∨ options.kind = none) :
    expandFields [field] = .ok {} := by
  rw [expandFields_singleton, derive_of_leftOut reads leftOut]
  rfl

/-- A field that is left out makes no difference wherever it stands. -/
theorem expandFields_insert_of_leftOut
    (reads : SearchOptions.ofAttributes field.attributes = .ok options)
    (leftOut : options.skip = true ∨ options.kind = none)
    (front back : List FieldDeclaration) :
    expandFields (front ++ field :: back) = expandFields (front ++ back) := by
  rw [← List.singleton_append, expandFields_append, expandFields_append front back,
    expandFields_append [field] back, expandFields_of_leftOut reads leftOut]
  apply bind_congr
  intro first
  cases expandFields back <;> rfl

theorem contributes_of_expandFields
    (reads : SearchOptions.ofAttributes field.attributes = .ok options)
    (notSkipped : options.skip = false)
    {kind : SearchKind}
    (hasKind : options.kind = some kind)
    {own : Expansion}
    (expands : expandFields [field] = .ok own) :
    field.Contributes options kind own := by
  rw [expandFields_singleton, derive_of_kind reads notSkipped hasKind, map_eq_ok] at expands
  obtain ⟨outcome, derives, rfl⟩ := expands
  obtain ⟨derived, derivesAs, rfl⟩ := map_eq_ok.mp derives
  obtain ⟨-, isDeclared, isDerived⟩ := deriveAs_eq_ok derivesAs
  rw [isDerived]
  constructor
  · rfl
  · exact ⟨derived.declared, isDeclared, rfl⟩
  · by_cases isEntity : kind = .entity
    · subst isEntity
      rfl
    · simp only [Expansion.ofDerived, DerivedField.arms, isEntity, ↓reduceIte]
      rfl

end FieldDeclaration

/--
What is generated for a struct is decided field by field. For two lists of fields,
one after the other, it is what is generated for the first, followed by what is
generated for the second. It fails just if a field fails alone, with the error of
the first that does. A field that is left out or has no kind makes no difference
wherever it stands, and every other one contributes its names once.
-/
theorem expand_fieldwise
    (declaration : Declaration)
    (isStruct : declaration.sort = .struct)
    (front back : List FieldDeclaration)
    (split : declaration.fields = front ++ back) :
    (∀ expansion,
      declaration.expand = .ok expansion ↔
        ∃ first second,
          (declaration.withFields front).expand = .ok first ∧
            (declaration.withFields back).expand = .ok second ∧
              expansion.constants = first.constants ++ second.constants ∧
                expansion.entries = first.entries ++ second.entries ∧
                  expansion.arms = first.arms ++ second.arms) ∧
      (∀ failure,
        declaration.expand = .error failure ↔
          FailsFirst (fun field => (declaration.withFields [field]).expand)
            declaration.fields failure) ∧
        ∀ field options,
          SearchOptions.ofAttributes field.attributes = .ok options →
            (options.skip = true ∨ options.kind = none →
              (declaration.withFields [field]).expand = .ok {} ∧
                (declaration.withFields (front ++ field :: back)).expand =
                  declaration.expand) ∧
              ∀ kind,
                options.skip = false →
                  options.kind = some kind →
                    ∀ own,
                      (declaration.withFields [field]).expand = .ok own →
                        field.Contributes options kind own := by
  simp only [expand_withFields isStruct]
  rw [expand_of_isStruct isStruct, split]
  refine ⟨?_, ?_, ?_⟩
  · intro expansion
    rw [expandFields_append_eq_ok_iff]
    simp only [Expansion.ext_iff, Expansion.constants_append, Expansion.entries_append,
      Expansion.arms_append]
  · intro failure
    exact expandFields_eq_error_iff
  · intro field options reads
    constructor
    · intro leftOut
      exact ⟨FieldDeclaration.expandFields_of_leftOut reads leftOut,
        FieldDeclaration.expandFields_insert_of_leftOut reads leftOut front back⟩
    · intro kind notSkipped hasKind own expands
      exact FieldDeclaration.contributes_of_expandFields reads notSkipped hasKind expands

/-- A name as a token. -/
def word (text : String) : Token :=
  .atom (.name text)

/-- A mark that no other one follows at once, as a token. -/
def mark (character : Char) : Token :=
  .atom (.mark character false)

/-- A search attribute. -/
def searchable (arguments : List Token) : List Token :=
  [word "search", .group .round arguments]

/-- People with several places, and a field that differs from these by letter case only. -/
def resident : Declaration where
  sort := .struct
  name := "Resident"
  parameters := []
  fields := [
    { name := "homes", type := [word "Vec", mark '<', word "Place", mark '>'],
      attributes := [searchable [word "Entity", mark ',', word "rename", mark '=',
        .atom (.string "mainHome" "\"mainHome\"")]] },
    { name := "mainhome", type := [word "String"], attributes := [searchable [word "Text"]] }]

/-- What is derived for residents. -/
def residentFields : List DerivedField := [
  { storageName := "homes", queryName := "mainHome", constant := "MAIN_HOME", kind := .entity,
    declared := .entity "Place", caseSensitive := none,
    storage := { optional := false, container := .sequence, element := [word "Place"] } },
  { storageName := "mainhome", queryName := "mainhome", constant := "MAINHOME", kind := .text,
    declared := .simple .text, caseSensitive := none,
    storage := { optional := false, container := .scalar, element := [word "String"] } }]

set_option maxRecDepth 4000 in
theorem derive_resident : resident.derive = .ok residentFields := by
  rfl

/-- A note, which is a text but left out. -/
def note : FieldDeclaration where
  name := "note"
  type := [word "String"]
  attributes := [searchable [word "Text", mark ',', word "skip"]]

/-- A number of no kind that there is. -/
def serialNumber : FieldDeclaration where
  name := "serialNumber"
  type := [word "Uuid"]
  attributes := [searchable [word "Uuid"]]

/-- The options of the homes of residents. -/
def homesOptions : SearchOptions where
  kind := some .entity
  rename := some "mainHome"

theorem expand_resident : resident.expand = .ok (Expansion.ofFields residentFields) := by
  rw [expand_eq, derive_resident]
  rfl

set_option maxRecDepth 4000 in
/-- A note among the fields of residents is passed over, and a serial number fails. -/
theorem expand_fieldwise_resident :
    (∃ first second,
      (resident.withFields [resident.fields[0]]).expand = .ok first ∧
        (resident.withFields [resident.fields[1]]).expand = .ok second ∧
          (Expansion.ofFields residentFields).arms = first.arms ++ second.arms ∧
            resident.fields[0].Contributes homesOptions .entity first) ∧
      (resident.withFields [resident.fields[0], note, resident.fields[1]]).expand =
        resident.expand ∧
        (resident.withFields [resident.fields[0], serialNumber, note]).expand =
          .error (.unknownKind "Uuid") := by
  obtain ⟨concatenated, -, alone⟩ :=
    expand_fieldwise resident rfl [resident.fields[0]] [resident.fields[1]] rfl
  refine ⟨?_, ?_, ?_⟩
  · obtain ⟨first, second, ofHomes, ofName, -, -, arms⟩ := (concatenated _).mp expand_resident
    have contributes := (alone resident.fields[0] homesOptions rfl).2 .entity rfl rfl first ofHomes
    exact ⟨first, second, ofHomes, ofName, arms, contributes⟩
  · exact ((alone note { kind := some .text, skip := true } rfl).1 (.inl rfl)).2
  · let numbered := resident.withFields [resident.fields[0], serialNumber, note]
    obtain ⟨-, fails, -⟩ :=
      expand_fieldwise numbered rfl [resident.fields[0]] [serialNumber, note] rfl
    apply (fails (.unknownKind "Uuid")).mpr
    refine ⟨[resident.fields[0]], serialNumber, [note], rfl, ?_, rfl⟩
    intro earlier member
    rw [List.mem_singleton.mp member]
    exact ⟨_, rfl⟩

end FieldSearch.Declaration
