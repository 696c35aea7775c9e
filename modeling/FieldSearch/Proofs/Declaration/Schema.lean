import FieldSearch.Declaration.Derivation
import FieldSearch.Proofs.Outcomes
import FieldSearch.Proofs.Path.Route

namespace FieldSearch.Declaration

open Outcomes

/-!
# Derived schemas

The schema of a declaration has one attribute for each derived field, in order.
Every derived field stands for a field of the declaration: it has that field's
name and is stored as that field's type says, and its declared type is of the
kind by which its values are read.
-/

/-- What the types of elements contribute to a schema, by their written forms. -/
structure ElementTypes where
  /-- The schema of a type of records. -/
  schema : String → EntitySchema
  /-- The variants of an enumeration. -/
  variants : String → List String

/-- The kind of the values of a searchable kind; an entity has none. -/
def SearchKind.valueKind? : SearchKind → Option ValueKind
  | text => some .text
  | integer => some .integer
  | decimal => some .decimal
  | boolean => some .boolean
  | temporal => some .temporal
  | enumeration => some .enumeration
  | entity => none

/-- The searchable kind with values of a kind. -/
def SearchKind.ofValueKind : ValueKind → SearchKind
  | .text => text
  | .integer => integer
  | .decimal => decimal
  | .boolean => boolean
  | .temporal => temporal
  | .enumeration => enumeration

/-- A declared type in the schema; a simple one is never that of an entity. -/
def DeclaredType.toFieldType (elements : ElementTypes) : DeclaredType → FieldType
  | simple kind =>
      match kind.valueKind? with
      | some valueKind => .value (.ofKind valueKind)
      | none => .foreign kind.name
  | enumeration name element => .value (.enumeration name (elements.variants element))
  | entity element => .entity (elements.schema element)

namespace DerivedField

/-- The attribute of a derived field. -/
def toAttribute (elements : ElementTypes) (field : DerivedField) : Attribute :=
  ⟨field.queryName, field.declared.toFieldType elements, field.caseSensitive⟩

/-- A derived field stands for a field of a declaration. -/
structure StandsFor (derived : DerivedField) (field : FieldDeclaration) : Prop where
  storageName_eq : derived.storageName = field.name
  storage_eq : derived.storage = Storage.ofType field.type
  declaredType_eq : declaredType derived.kind derived.storage = .ok derived.declared

end DerivedField

/-- The schema that the fields derived from a declaration make up. -/
def schema
    (declaration : Declaration)
    (elements : ElementTypes)
    (fields : List DerivedField) :
    EntitySchema where
  name := declaration.name
  attributes := fields.map (·.toAttribute elements)
  rawFields := fields.map (·.toRawField)

/-- A name denotes the attribute of the first derived field whose query name matches. -/
theorem denoted?_schema
    (declaration : Declaration)
    (elements : ElementTypes)
    (fields : List DerivedField)
    (name : String) :
    (FieldType.entity (declaration.schema elements fields)).denoted? name =
      (fields.find? fun field => sameLetters field.queryName name).map
        (·.toAttribute elements) :=
  List.find?_map

namespace FieldDeclaration

/-- What is derived from a field of a kind: its constant is an identifier and its type is declared. -/
theorem deriveAs_eq_ok
    {field : FieldDeclaration}
    {options : SearchOptions}
    {kind : SearchKind}
    {derived : DerivedField}
    (derives : field.deriveAs options kind = .ok derived) :
    Text.isIdentifier (constantName derived.queryName) = true ∧
      declaredType kind (Storage.ofType field.type) = .ok derived.declared ∧
        derived = {
          storageName := field.name
          queryName := options.rename.getD field.name
          constant := constantName (options.rename.getD field.name)
          kind := kind
          declared := derived.declared
          caseSensitive := options.caseSensitive
          storage := Storage.ofType field.type
        } := by
  unfold deriveAs at derives
  dsimp only at derives
  split at derives
  · next isIdentifier =>
      obtain ⟨declared, isDeclared, same⟩ := bind_eq_ok.mp derives
      cases same
      exact ⟨isIdentifier, isDeclared, rfl⟩
  · cases derives

/-- Something is derived from a field just if its options name a kind and do not leave it out. -/
theorem derive_eq_some_iff
    {field : FieldDeclaration}
    {derived : DerivedField} :
    field.derive = .ok (some derived) ↔
      ∃ options kind,
        SearchOptions.ofAttributes field.attributes = .ok options ∧
          options.skip = false ∧
            options.kind = some kind ∧
              field.deriveAs options kind = .ok derived := by
  constructor
  · intro derives
    obtain ⟨options, isOptions, later⟩ := bind_eq_ok.mp derives
    split at later
    · next kind notSkipped hasKind =>
        obtain ⟨fromKind, derivesAs, same⟩ := bind_eq_ok.mp later
        cases same
        exact ⟨options, kind, isOptions, notSkipped, hasKind, derivesAs⟩
    · cases later
  · rintro ⟨options, kind, isOptions, notSkipped, hasKind, derivesAs⟩
    simp only [derive, isOptions, notSkipped, hasKind, derivesAs, bind, Except.bind, pure,
      Except.pure]

theorem standsFor_of_derive
    {field : FieldDeclaration}
    {derived : DerivedField}
    (derives : field.derive = .ok (some derived)) :
    derived.StandsFor field := by
  obtain ⟨options, kind, -, -, -, derivesAs⟩ := derive_eq_some_iff.mp derives
  obtain ⟨-, isDeclared, isDerived⟩ := deriveAs_eq_ok derivesAs
  rw [isDerived]
  exact ⟨rfl, rfl, isDeclared⟩

end FieldDeclaration

/-- What is derived from a declaration is what is derived from its fields. -/
theorem mem_iff_of_derive
    {declaration : Declaration}
    {fields : List DerivedField}
    (derives : declaration.derive = .ok fields)
    {derived : DerivedField} :
    derived ∈ fields ↔ ∃ field ∈ declaration.fields, field.derive = .ok (some derived) := by
  unfold derive at derives
  split at derives
  · obtain ⟨outcomes, derivesEach, rfl⟩ := map_eq_ok.mp derives
    rw [← mem_iff_of_mapM_eq_ok derivesEach]
    simp
  all_goals cases derives

end FieldSearch.Declaration
