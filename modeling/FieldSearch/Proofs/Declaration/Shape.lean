import FieldSearch.Proofs.Declaration.Accessor
import FieldSearch.Proofs.Lookup

namespace FieldSearch.Declaration

/-!
# Shapes of derived attributes

Attributes are listed by their query names, stored fields by the names that they
are declared with, and the shape of an attribute is that of the stored field with
exactly its query name. An attribute that keeps the name of its field therefore
has the shape of this field. A renamed one has no stored field and counts as a
scalar, unless another searchable field is declared with the name it was given:
in that case it has the shape of the other field.
-/

namespace FieldDeclaration

/-- Something is derived from the field. -/
def IsSearchable (field : FieldDeclaration) : Prop :=
  ∃ derived, field.derive = .ok (some derived)

/-- Whether the type of the field holds one value or a collection of values. -/
def shape (field : FieldDeclaration) : FieldShape :=
  (Storage.ofType field.type).container.shape

end FieldDeclaration

section

variable
  {declaration : Declaration}
  {fields : List DerivedField}
  (elements : ElementTypes)
  (derives : declaration.derive = .ok fields)

/-- The stored fields are those of the derived fields, by the names of the declaration. -/
theorem rawShape?_schema (name : String) :
    (FieldType.entity (declaration.schema elements fields)).rawShape? name =
      (fields.find? (·.storageName == name)).map (·.storage.container.shape) := by
  have stored :
      (FieldType.entity (declaration.schema elements fields)).rawField? name =
        (fields.find? (·.storageName == name)).map (·.toRawField) :=
    List.find?_map
  rw [FieldType.rawShape?, stored, Option.map_map]
  rfl

include derives

/-- Where names are distinct, a searchable field is stored by its name in its own shape. -/
theorem rawShape?_of_searchable
    (distinct : (declaration.fields.map (·.name)).Nodup)
    {field : FieldDeclaration}
    (member : field ∈ declaration.fields)
    (searchable : field.IsSearchable) :
    (FieldType.entity (declaration.schema elements fields)).rawShape? field.name =
      some field.shape := by
  obtain ⟨derived, derivesField⟩ := searchable
  have standsFor := FieldDeclaration.standsFor_of_derive derivesField
  have found : fields.find? (·.storageName == field.name) = some derived := by
    have derivedMember := (mem_iff_of_derive derives).mpr ⟨field, member, derivesField⟩
    refine Lookup.find?_eq_some_of_unique derivedMember
      (beq_iff_eq.mpr standsFor.storageName_eq) ?_
    intro other otherMember sameName
    obtain ⟨declaring, declaringMember, derivesOther⟩ :=
      (mem_iff_of_derive derives).mp otherMember
    have otherStandsFor := FieldDeclaration.standsFor_of_derive derivesOther
    have sameField : declaring = field := by
      refine List.inj_on_of_nodup_map distinct declaringMember member ?_
      exact otherStandsFor.storageName_eq.symm.trans (beq_iff_eq.mp sameName)
    rw [sameField, derivesField] at derivesOther
    cases derivesOther
    rfl
  rw [rawShape?_schema, found, Option.map_some, standsFor.storage_eq]
  rfl

/-- Only searchable fields are stored. -/
theorem rawShape?_eq_none
    {name : String}
    (unstored : ∀ field ∈ declaration.fields, field.IsSearchable → field.name ≠ name) :
    (FieldType.entity (declaration.schema elements fields)).rawShape? name = none := by
  rw [rawShape?_schema, Option.map_eq_none_iff, List.find?_eq_none]
  intro derived member sameName
  obtain ⟨field, fieldMember, derivesField⟩ := (mem_iff_of_derive derives).mp member
  have standsFor := FieldDeclaration.standsFor_of_derive derivesField
  refine unstored field fieldMember ⟨derived, derivesField⟩ ?_
  exact standsFor.storageName_eq.symm.trans (beq_iff_eq.mp sameName)

end

/--
An attribute that keeps the name of its field has the shape of this field, if the
names in the declaration are distinct. A renamed attribute is a scalar if no
searchable field is declared with its new name, and otherwise it has the shape of
the field that is.
-/
theorem fieldShape_of_derived
    (declaration : Declaration)
    (distinct : (declaration.fields.map (·.name)).Nodup)
    (fields : List DerivedField)
    (derives : declaration.derive = .ok fields)
    (elements : ElementTypes)
    (field : FieldDeclaration)
    (member : field ∈ declaration.fields)
    (derived : DerivedField)
    (derivesField : field.derive = .ok (some derived)) :
    (derived.queryName = field.name →
      (FieldType.entity (declaration.schema elements fields)).fieldShape derived.queryName =
        field.shape) ∧
      (derived.queryName ≠ field.name →
        ((∀ other ∈ declaration.fields,
          other.IsSearchable → other.name ≠ derived.queryName) →
            (FieldType.entity (declaration.schema elements fields)).fieldShape
              derived.queryName = .scalar) ∧
          ∀ other ∈ declaration.fields,
            other.IsSearchable →
              other.name = derived.queryName →
                (FieldType.entity (declaration.schema elements fields)).fieldShape
                  derived.queryName = other.shape) := by
  have ofDeclared :
      ∀ other ∈ declaration.fields,
        other.IsSearchable →
          other.name = derived.queryName →
            (FieldType.entity (declaration.schema elements fields)).fieldShape
              derived.queryName = other.shape := by
    intro other otherMember searchable sameName
    have stored := rawShape?_of_searchable elements derives distinct otherMember searchable
    rw [← sameName, FieldType.fieldShape, stored, Option.getD_some]
  constructor
  · intro keepsName
    exact ofDeclared field member ⟨derived, derivesField⟩ keepsName.symm
  · intro _
    refine ⟨?_, ofDeclared⟩
    intro unstored
    rw [FieldType.fieldShape, rawShape?_eq_none elements derives unstored, Option.getD_none]

/-- Posts whose title goes by the name of their tags, and the tags by another one. -/
def post : Declaration where
  sort := .struct
  name := "Post"
  parameters := []
  fields := [
    { name := "title", type := [word "String"],
      attributes := [searchable [word "Text", mark ',', word "rename", mark '=',
        .atom (.string "tags" "\"tags\"")]] },
    { name := "tags", type := [word "Vec", mark '<', word "String", mark '>'],
      attributes := [searchable [word "Text", mark ',', word "rename", mark '=',
        .atom (.string "labels" "\"labels\"")]] }]

/-- What is derived for posts. -/
def postFields : List DerivedField := [
  { storageName := "title", queryName := "tags", constant := "TAGS", kind := .text,
    declared := .simple .text, caseSensitive := none,
    storage := { optional := false, container := .scalar, element := [word "String"] } },
  { storageName := "tags", queryName := "labels", constant := "LABELS", kind := .text,
    declared := .simple .text, caseSensitive := none,
    storage := { optional := false, container := .sequence, element := [word "String"] } }]

set_option maxRecDepth 4000 in
theorem derive_post : post.derive = .ok postFields := by
  rfl

set_option maxRecDepth 4000 in
/-- The title of a post is searched as the collection that its tags are, and these are not. -/
theorem fieldShape_of_derived_title :
    post.fields[0].shape = .scalar ∧
      (FieldType.entity (post.schema placeTypes postFields)).fieldShape "tags" = .collection ∧
        post.fields[1].shape = .collection ∧
          (FieldType.entity (post.schema placeTypes postFields)).fieldShape "labels" =
            .scalar := by
  have distinct : (post.fields.map (·.name)).Nodup := by decide
  have derivesTitle : post.fields[0].derive = .ok (some postFields[0]) := rfl
  have derivesTags : post.fields[1].derive = .ok (some postFields[1]) := rfl
  refine ⟨rfl, ?_, rfl, ?_⟩
  · obtain ⟨-, renamed⟩ :=
      fieldShape_of_derived post distinct postFields derive_post placeTypes post.fields[0]
        (by simp [post]) postFields[0] derivesTitle
    have ofTags := (renamed (by decide)).2 post.fields[1] (by simp [post]) ⟨_, derivesTags⟩ rfl
    exact ofTags
  · obtain ⟨-, renamed⟩ :=
      fieldShape_of_derived post distinct postFields derive_post placeTypes post.fields[1]
        (by simp [post]) postFields[1] derivesTags
    refine (renamed (by decide)).1 ?_
    intro other member _
    exact (show ∀ other ∈ post.fields, other.name ≠ "labels" by decide) other member

end FieldSearch.Declaration
