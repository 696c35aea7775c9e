import FieldSearch.Proofs.Compiler.Resolution
import FieldSearch.Proofs.Declaration.Expansion

namespace FieldSearch.Declaration

open Compiler FieldType

/-!
# Derived accessors

A value is read by the first arm for its path, where arms are in the order of the
fields and are compared by exact name. The schema of the same declaration is
searched without regard to letter case. Both nevertheless arrive at the same
field, however names collide: an earlier field with exactly the name of an
attribute would have been found in its place.
-/

/-- The paths that an arm is for. -/
def Arm.isFor (arm : Arm) : List String → Bool
  | [] => false
  | name :: rest => arm.name == name && (arm.isRest || rest.isEmpty)

/-- The arms of fields in order, each with the field that it reads. -/
def accessor (fields : List DerivedField) : List (DerivedField × Arm) :=
  fields.flatMap fun field => field.arms.map fun arm => (field, arm)

/-- The first arm for a path, with the field that it reads. -/
def firstArm? (fields : List DerivedField) (path : List String) :
    Option (DerivedField × Arm) :=
  (accessor fields).find? fun entry => entry.2.isFor path

/-- The conversion for an attribute of the given type. -/
def Conversion.ofType? : FieldType → Option Conversion
  | .value type => some (.byKind (.ofValueKind type.kind))
  | .entity _ => some (.byKind .entity)
  | .foreign _ => none

/-- An arm reads a field, through an option and as a list as the type of the field says. -/
structure Arm.Reads (arm : Arm) (field : FieldDeclaration) : Prop where
  field_eq : arm.field = field.name
  optional_eq : arm.optional = (Storage.ofType field.type).optional
  list_eq : arm.list = (Storage.ofType field.type).isList

/-- The element types whose accessors are derived as well, with what is derived for them. -/
structure ElementTypes.Derivations (elements : ElementTypes) where
  fields? : String → Option (List DerivedField)
  isDerived :
    ∀ element fields, fields? element = some fields →
      ∃ declaration : Declaration,
        declaration.derive = .ok fields ∧
          elements.schema element = declaration.schema elements fields

/--
The arms that a path takes, one in each derived accessor on its way. There are
none if one of these accessors has no arm for what is left of the path.
-/
def armsAlong?
    {elements : ElementTypes}
    (derivations : elements.Derivations) :
    List String →
    List DerivedField →
    Option (List Arm)
  | [], _ => none
  | name :: rest, fields => do
      let (field, arm) ← firstArm? fields (name :: rest)
      match arm.conversion, field.declared with
      | .nested, .entity element =>
          match derivations.fields? element with
          | some inner => return arm :: (← armsAlong? derivations rest inner)
          | none => return [arm]
      | _, _ => return [arm]

/-- The accessor has the arms of the fields in order. -/
theorem accessor_map_snd (fields : List DerivedField) :
    (accessor fields).map (·.2) = fields.flatMap (·.arms) := by
  simp [accessor, List.map_flatMap, Function.comp_def]

/-- What is generated has the entries of the schema and the arms of the accessor, in order. -/
theorem exists_fields_of_expand
    {declaration : Declaration}
    {expansion : Expansion}
    (expands : declaration.expand = .ok expansion) :
    ∃ fields,
      declaration.derive = .ok fields ∧
        expansion.entries = fields.map (·.toEntry) ∧
          expansion.arms = (accessor fields).map (·.2) := by
  rw [expand_eq] at expands
  obtain ⟨fields, derives, rfl⟩ := Outcomes.map_eq_ok.mp expands
  exact ⟨fields, derives, rfl, (accessor_map_snd fields).symm⟩

namespace DerivedField

theorem reads_arm
    {derived : DerivedField}
    {field : FieldDeclaration}
    (standsFor : derived.StandsFor field)
    (isRest : Bool)
    (conversion : Conversion) :
    (derived.arm isRest conversion).Reads field := by
  constructor
  · rw [arm, standsFor.storageName_eq]
  · rw [arm, standsFor.storage_eq]
  · rw [arm, standsFor.storage_eq]

/-- All arms of a field are for paths that start with its query name. -/
theorem queryName_eq_of_isFor
    {field : DerivedField}
    {arm : Arm}
    (member : arm ∈ field.arms)
    {name : String}
    {rest : List String}
    (isFor : arm.isFor (name :: rest) = true) :
    field.queryName = name := by
  have named : arm.name = field.queryName := by
    unfold arms at member
    dsimp only at member
    split at member
    · rcases List.mem_pair.mp member with rfl | rfl <;> rfl
    · rw [List.mem_singleton.mp member]
      rfl
  rw [Arm.isFor, Bool.and_eq_true, beq_iff_eq] at isFor
  rw [← named]
  exact isFor.1

/-- The first arm of a field is the one for its own name alone. -/
theorem find?_arms_own (field : DerivedField) :
    field.arms.find? (·.isFor [field.queryName]) =
      some (field.arm false (.byKind field.kind)) := by
  have isFor : (field.arm false (.byKind field.kind)).isFor [field.queryName] = true := by
    simp [Arm.isFor, arm]
  unfold arms
  dsimp only
  split <;> exact List.find?_cons_of_pos isFor

/-- An entity has an arm for the longer paths that start with its name. -/
theorem find?_arms_nested
    {field : DerivedField}
    (isEntity : field.kind = .entity)
    (next : String)
    (rest : List String) :
    field.arms.find? (·.isFor (field.queryName :: next :: rest)) =
      some (field.arm true .nested) := by
  simp [arms, isEntity, Arm.isFor, arm]

end DerivedField

/-- Values are read by the conversion for the declared type. -/
theorem ofType?_of_declaredType
    {kind : SearchKind}
    {storage : Storage}
    {declared : DeclaredType}
    (isDeclared : declaredType kind storage = .ok declared)
    (elements : ElementTypes) :
    Conversion.ofType? (declared.toFieldType elements) = some (.byKind kind) := by
  cases kind
  case enumeration =>
    unfold declaredType at isDeclared
    dsimp only at isDeclared
    split at isDeclared
    · cases isDeclared
      rfl
    · cases isDeclared
  all_goals
    cases isDeclared
    rfl

theorem ofType?_ne_nested (type : FieldType) :
    Conversion.ofType? type ≠ some .nested := by
  cases type <;> exact nofun

/-- The declaring field of a name answers first for the paths that start with its query name. -/
theorem firstArm?_eq_some
    {fields : List DerivedField}
    {name : String}
    {derived : DerivedField}
    (declares : fields.find? (sameLetters ·.queryName name) = some derived)
    {rest : List String}
    {arm : Arm}
    (answers : derived.arms.find? (·.isFor (derived.queryName :: rest)) = some arm) :
    firstArm? fields (derived.queryName :: rest) = some (derived, arm) := by
  obtain ⟨found, before, after, rfl, noneBefore⟩ :=
    List.find?_eq_some_iff_append.mp declares
  rw [firstArm?, accessor, List.find?_flatMap, List.findSome?_eq_some_iff]
  refine ⟨before, derived, after, rfl, ?_, ?_⟩
  · rw [List.find?_map]
    exact congrArg (Option.map fun arm => (derived, arm)) answers
  · intro earlier member
    rw [List.find?_map, Option.map_eq_none_iff, List.find?_eq_none]
    intro candidate inArms isFor
    -- An earlier field with the same query name would be the declaring one itself.
    have sameName := DerivedField.queryName_eq_of_isFor inArms isFor
    have notFound := noneBefore earlier member
    rw [sameName, found] at notFound
    cases notFound

section

variable
  {declaration : Declaration}
  {fields : List DerivedField}
  {elements : ElementTypes}
  {name : String}
  {found : Attribute}

/-- What a name denotes is declared by a field of the declaration. -/
theorem exists_declaring_of_denoted?
    (derives : declaration.derive = .ok fields)
    (denotes :
      (FieldType.entity (declaration.schema elements fields)).denoted? name = some found) :
    ∃ field ∈ declaration.fields, ∃ derived,
      field.derive = .ok (some derived) ∧
        fields.find? (sameLetters ·.queryName name) = some derived ∧
          derived.toAttribute elements = found := by
  rw [denoted?_schema, Option.map_eq_some_iff] at denotes
  obtain ⟨derived, declares, isFound⟩ := denotes
  obtain ⟨field, member, derivesField⟩ :=
    (mem_iff_of_derive derives).mp (List.mem_of_find?_eq_some declares)
  exact ⟨field, member, derived, derivesField, declares, isFound⟩

/-- The name of an attribute is read from the declaring field, by the attribute's type. -/
theorem exists_ownArm
    (elements : ElementTypes)
    {field : FieldDeclaration}
    {derived : DerivedField}
    (derivesField : field.derive = .ok (some derived))
    (declares : fields.find? (sameLetters ·.queryName name) = some derived) :
    ∃ arm,
      firstArm? fields [derived.queryName] = some (derived, arm) ∧
        arm.Reads field ∧
          Conversion.ofType? (derived.declared.toFieldType elements) = some arm.conversion := by
  have standsFor := FieldDeclaration.standsFor_of_derive derivesField
  exact ⟨derived.arm false (.byKind derived.kind),
    firstArm?_eq_some declares derived.find?_arms_own,
    DerivedField.reads_arm standsFor _ _,
    ofType?_of_declaredType standsFor.declaredType_eq elements⟩

/-- The longer paths through an entity are read from the declaring field. -/
theorem exists_nestedArm
    {field : FieldDeclaration}
    {derived : DerivedField}
    (derivesField : field.derive = .ok (some derived))
    (declares : fields.find? (sameLetters ·.queryName name) = some derived)
    {schema : EntitySchema}
    (isEntity : derived.declared.toFieldType elements = .entity schema)
    (next : String)
    (rest : List String) :
    ∃ arm,
      firstArm? fields (derived.queryName :: next :: rest) = some (derived, arm) ∧
        arm.Reads field ∧
          arm.conversion = .nested := by
  have standsFor := FieldDeclaration.standsFor_of_derive derivesField
  have ofEntity : derived.kind = .entity := by
    have byKind := ofType?_of_declaredType standsFor.declaredType_eq elements
    rw [isEntity] at byKind
    exact (Conversion.byKind.inj (Option.some.inj byKind)).symm
  exact ⟨derived.arm true .nested,
    firstArm?_eq_some declares (DerivedField.find?_arms_nested ofEntity next rest),
    DerivedField.reads_arm standsFor _ _, rfl⟩

end

/-- An arm for a path is followed by those for the rest, where the accessor is derived. -/
theorem isSome_armsAlong?_cons
    {elements : ElementTypes}
    {derivations : elements.Derivations}
    {fields : List DerivedField}
    {name : String}
    {rest : List String}
    {derived : DerivedField}
    {arm : Arm}
    (first : firstArm? fields (name :: rest) = some (derived, arm))
    (later :
      ∀ element inner,
        arm.conversion = .nested →
          derived.declared = .entity element →
            derivations.fields? element = some inner →
              (armsAlong? derivations rest inner).isSome = true) :
    (armsAlong? derivations (name :: rest) fields).isSome = true := by
  simp only [armsAlong?, first, Option.bind_eq_bind, Option.bind_some]
  split
  · next element isNested isEntity =>
      split
      · next inner isInner =>
          obtain ⟨arms, along⟩ :=
            Option.isSome_iff_exists.mp (later element inner isNested isEntity isInner)
          rw [along]
          rfl
      · rfl
  · rfl

/-- Along a route, each derived accessor has an arm for what is left of the declared names. -/
theorem armsAlong?_of_route
    {elements : ElementTypes}
    (derivations : elements.Derivations)
    {root target : FieldType}
    {segments : List String}
    {trail : List Attribute}
    (route : root.Route segments trail target)
    (passes : trail ≠ [])
    {declaration : Declaration}
    {fields : List DerivedField}
    (derives : declaration.derive = .ok fields)
    (isRoot : root = .entity (declaration.schema elements fields)) :
    (armsAlong? derivations (trail.map (·.name)) fields).isSome = true := by
  induction route generalizing declaration fields with
  | stay =>
      exact absurd rfl passes
  | through denotes later inductionHypothesis =>
      subst isRoot
      obtain ⟨field, -, derived, derivesField, declares, rfl⟩ :=
        exists_declaring_of_denoted? derives denotes
      rw [List.map_cons]
      cases later with
      | stay =>
          -- The arm for the last name converts, and hands nothing on.
          obtain ⟨arm, first, -, byType⟩ :=
            exists_ownArm elements derivesField declares
          refine isSome_armsAlong?_cons first ?_
          intro _ _ isNested
          rw [isNested] at byType
          exact absurd byType (ofType?_ne_nested _)
      | through nextDenotes _ =>
          -- Only an entity is passed through, and the rest is a path in its schema.
          obtain ⟨schema, isEntity⟩ := exists_schema_of_denoted? nextDenotes
          obtain ⟨arm, first, -⟩ := exists_nestedArm derivesField declares isEntity _ _
          refine isSome_armsAlong?_cons first ?_
          intro element inner _ isElement isInner
          obtain ⟨innerDeclaration, derivesInner, isSchema⟩ :=
            derivations.isDerived element inner isInner
          refine inductionHypothesis (List.cons_ne_nil _ _) derivesInner ?_
          rw [← isSchema, DerivedField.toAttribute, isElement]
          rfl

/--
A derived accessor reads every attribute of the derived schema from the field that
declares it. What is generated are the entries of the schema and the arms of the
accessor. Let a name be resolved to an attribute: the first arm for the path of the
attribute's own name reads the declaring field, by that field's own name, converts by
the declared type, and reads through an option and as a list as the type of the field
says; and if the attribute is an entity, the first arm for every longer path is the
nested arm of the same field. The path of a compiled clause therefore always has an
arm, in this accessor and in those of the nested types that it leads through.
-/
theorem accessor_agrees_with_schema
    (declaration : Declaration)
    {expansion : Expansion}
    (expands : declaration.expand = .ok expansion)
    (elements : ElementTypes) :
    ∃ fields,
      declaration.derive = .ok fields ∧
        expansion.entries = fields.map (·.toEntry) ∧
          expansion.arms = (accessor fields).map (·.2) ∧
            (∀ name found,
              (FieldType.entity (declaration.schema elements fields)).lookup name =
                  .ok (some found) →
                ∃ field ∈ declaration.fields, ∃ derived,
                  field.derive = .ok (some derived) ∧
                    fields.find? (namesMatch ·.queryName name) = some derived ∧
                      derived.toAttribute elements = found ∧
                        (∃ arm,
                          firstArm? fields [found.name] = some (derived, arm) ∧
                            arm.Reads field ∧
                              Conversion.ofType? found.declared = some arm.conversion) ∧
                          ∀ schema,
                            found.declared = .entity schema →
                              ∀ next rest, ∃ arm,
                                firstArm? fields (found.name :: next :: rest) =
                                    some (derived, arm) ∧
                                  arm.Reads field ∧
                                    arm.conversion = .nested) ∧
              ∀ (derivations : elements.Derivations) (compiler : Compiler) (config : Config)
                  (criterion : Criterion) (clause : Clause),
                compiler.root = .entity (declaration.schema elements fields) →
                  Key.wellFormed criterion.key = true →
                    compiler.KeepsTargets config →
                      compiler.compile config criterion = .ok clause →
                        (armsAlong? derivations clause.path.parts fields).isSome = true := by
  obtain ⟨fields, derives, entries, arms⟩ := exists_fields_of_expand expands
  refine ⟨fields, derives, entries, arms, ?_, ?_⟩
  · intro name found resolves
    have denotes :
        (FieldType.entity (declaration.schema elements fields)).denoted? name = some found := by
      rw [← find?_eq_denoted?]
      unfold lookup at resolves
      split at resolves
      · next other isOther =>
          cases resolves
          exact isOther
      · split at resolves <;> cases resolves
    obtain ⟨field, member, derived, derivesField, declares, rfl⟩ :=
      exists_declaring_of_denoted? derives denotes
    refine ⟨field, member, derived, derivesField, ?_, rfl,
      exists_ownArm elements derivesField declares, ?_⟩
    · simpa only [namesMatch_eq_sameLetters] using declares
    · intro schema isEntity next rest
      exact exists_nestedArm derivesField declares isEntity next rest
  · intro derivations compiler config criterion clause isRoot accepted keepsTargets compiled
    obtain ⟨passed, context, found, route, built⟩ :=
      exists_route_of_compile_eq_ok criterion accepted compiled
    rw [path_of_compileFound keepsTargets built, parts_pathTo]
    exact armsAlong?_of_route derivations route (by simp) derives isRoot

/-- Places with a name. -/
def place : Declaration where
  sort := .struct
  name := "Place"
  parameters := []
  fields := [
    { name := "city", type := [word "Option", mark '<', word "String", mark '>'],
      attributes := [searchable [word "Text"]] }]

/-- What is derived for places. -/
def placeFields : List DerivedField := [
  { storageName := "city", queryName := "city", constant := "CITY", kind := .text,
    declared := .simple .text, caseSensitive := none,
    storage := { optional := true, container := .scalar, element := [word "String"] } }]

theorem derive_place : place.derive = .ok placeFields := by
  rfl

/-- Places are the only element type. -/
def placeTypes : ElementTypes where
  schema _ := place.schema { schema := .empty, variants := fun _ => [] } placeFields
  variants _ := []

/-- The accessor of places is derived. -/
def placeDerivations : placeTypes.Derivations where
  fields? _ := some placeFields
  isDerived := by
    rintro element fields ⟨⟩
    exact ⟨place, derive_place, rfl⟩

/-- The name of the homes also matches that of the text behind them, which comes later. -/
theorem accessor_agrees_with_schema_mainHome :
    (∃ derived arm,
      firstArm? residentFields ["mainHome", "city"] = some (derived, arm) ∧
        arm.field = "homes" ∧
          arm.list = true ∧
            arm.conversion = .nested) ∧
      (armsAlong? placeDerivations ["mainHome", "city"] residentFields).isSome = true := by
  obtain ⟨fields, derives, -, -, ofNames, ofPaths⟩ :=
    accessor_agrees_with_schema resident expand_resident placeTypes
  rw [derive_resident] at derives
  cases derives
  constructor
  · obtain ⟨field, member, derived, derivesField, declares, -, -, nested⟩ :=
      ofNames "MAINHOME" ⟨"mainHome", .entity (placeTypes.schema "Place"), none⟩ rfl
    obtain ⟨arm, first, reads, isNested⟩ := nested _ rfl "city" []
    obtain rfl : residentFields[0] = derived := Option.some.inj declares
    have standsFor := FieldDeclaration.standsFor_of_derive derivesField
    refine ⟨_, arm, first, ?_, ?_, isNested⟩
    · rw [reads.field_eq, ← standsFor.storageName_eq]
      rfl
    · rw [reads.list_eq, ← standsFor.storage_eq]
      rfl
  · let compiler : Compiler := { root := .entity (resident.schema placeTypes residentFields) }
    exact ofPaths placeDerivations compiler {} ⟨"MAINHOME.City", .eq, .single "Aarhus"⟩ _ rfl
      (by decide) (keepsTargets_standard _ rfl) rfl

end FieldSearch.Declaration
