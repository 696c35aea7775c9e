import FieldSearch.Proofs.Compiler.Stages
import FieldSearch.Proofs.Declaration.Accessor
import FieldSearch.Proofs.Key.Splittings
import FieldSearch.Proofs.Lookup

namespace FieldSearch

open Outcomes

/-!
# Constants as keys

A constant is generated for every derived field, to name it in criteria. What it
holds is the query name, which need not be a key for this field: with a dot in
it, it names an attribute of a nested type, if anything, and the attribute of an
earlier field is found in its place if the two names differ in letter case at
most. These are the only ways in which a constant can fail.
-/

/-- A key is accepted and leads to the attribute at a position in a type of records. -/
structure FieldType.NamedAt (root : FieldType) (key : String) (position : Nat) : Prop where
  /-- Criteria may have the key. -/
  accepted : ∀ operator value, Criterion.make key operator value = .ok ⟨key, operator, value⟩
  /-- No attribute is passed on the way, and the first match is at the position. -/
  reached :
    ∃ terminal,
      resolve root key = .ok { segments := [], context := root, terminal := terminal } ∧
        root.attributes.findIdx? (namesMatch ·.name terminal) = some position

/-- A key without dots is looked up where it is. -/
theorem resolve_of_dot_not_mem
    {key : String}
    (absent : '.' ∉ key.toList)
    (nonempty : key.isEmpty = false)
    (root : FieldType) :
    resolve root key = .ok { segments := [], context := root, terminal := key } := by
  have split := Key.segments_of_dot_not_mem absent
  have accepted : Key.wellFormed key = true := by
    simp [Key.wellFormed, split, nonempty]
  rw [resolve_of_wellFormed accepted, Key.enclosing, Key.terminal, split]
  rfl

/-- Only a key without dots is looked up where it is. -/
theorem dot_not_mem_of_resolve
    {root context : FieldType}
    {key terminal : String}
    (resolved :
      resolve root key = .ok { segments := [], context := context, terminal := terminal }) :
    '.' ∉ key.toList := by
  obtain ⟨walked, -⟩ := exists_walk_of_resolve resolved
  obtain ⟨trail, route, names⟩ := FieldType.exists_route_of_walk walked
  have matched := route.forall₂_names
  rw [names, List.forall₂_nil_left_iff] at matched
  exact Key.dot_not_mem_of_enclosing_eq_nil matched

/-- An attribute is named by its own name unless this has dots or an earlier one matches it. -/
theorem FieldType.namedAt_iff
    {root : FieldType}
    {before after : List Attribute}
    {own : Attribute}
    (attributes : root.attributes = before ++ own :: after)
    (nonempty : own.name.isEmpty = false) :
    root.NamedAt own.name before.length ↔
      '.' ∉ own.name.toList ∧
        ∀ earlier ∈ before, namesMatch earlier.name own.name = false := by
  have isMatch : namesMatch own.name own.name = true := by
    rw [namesMatch_eq_sameLetters, sameLetters_refl]
  have firstIff :
      (before ++ own :: after).findIdx? (namesMatch ·.name own.name) = some before.length ↔
        ∀ earlier ∈ before, namesMatch earlier.name own.name = false :=
    Lookup.findIdx?_append_cons_eq_some_iff isMatch
  rw [← attributes] at firstIff
  constructor
  · rintro ⟨accepted, terminal, resolved, first⟩
    have absent := dot_not_mem_of_resolve resolved
    rw [resolve_of_dot_not_mem absent nonempty root] at resolved
    cases resolved
    exact ⟨absent, firstIff.mp first⟩
  · rintro ⟨absent, noneBefore⟩
    have resolved := resolve_of_dot_not_mem absent nonempty root
    refine ⟨?_, own.name, resolved, firstIff.mpr noneBefore⟩
    intro operator value
    rw [Criterion.make_eq_ok_iff, Key.wellFormed, Key.segments_of_dot_not_mem absent]
    simp [nonempty]

namespace Declaration

/-- Query names are not empty, as constants are not. -/
theorem queryName_isEmpty_of_derive
    {declaration : Declaration}
    {fields : List DerivedField}
    (derives : declaration.derive = .ok fields)
    {derived : DerivedField}
    (member : derived ∈ fields) :
    derived.queryName.isEmpty = false := by
  obtain ⟨field, -, derivesField⟩ := (mem_iff_of_derive derives).mp member
  obtain ⟨options, kind, -, -, -, derivesAs⟩ :=
    FieldDeclaration.derive_eq_some_iff.mp derivesField
  have isIdentifier := (FieldDeclaration.deriveAs_eq_ok derivesAs).1
  cases isEmpty : derived.queryName.isEmpty with
  | false =>
      rfl
  | true =>
      rw [String.isEmpty_iff.mp isEmpty] at isIdentifier
      cases isIdentifier

/--
The constant of a derived field, as a key, is accepted and leads to the attribute
of this very field just if there is no dot in the query name and no field before it
has a query name that matches.
-/
theorem constant_namesOwn_iff
    (declaration : Declaration)
    (before after : List DerivedField)
    (derived : DerivedField)
    (derives : declaration.derive = .ok (before ++ derived :: after))
    (elements : ElementTypes) :
    (FieldType.entity (declaration.schema elements (before ++ derived :: after))).NamedAt
        derived.queryName before.length ↔
      '.' ∉ derived.queryName.toList ∧
        ∀ earlier ∈ before, namesMatch earlier.queryName derived.queryName = false := by
  have member : derived ∈ before ++ derived :: after := by simp
  have nonempty := queryName_isEmpty_of_derive derives member
  have attributes :
      (FieldType.entity
          (declaration.schema elements (before ++ derived :: after))).attributes =
        before.map (·.toAttribute elements) ++
          derived.toAttribute elements :: after.map (·.toAttribute elements) := by
    simp [FieldType.attributes, schema]
  have named := FieldType.namedAt_iff attributes nonempty
  rw [List.length_map, List.forall_mem_map] at named
  exact named

/-- Places whose city goes by a name with a dot. -/
def dwelling : Declaration where
  sort := .struct
  name := "Dwelling"
  parameters := []
  fields := [
    { name := "city", type := [word "String"],
      attributes := [searchable [word "Text", mark ',', word "rename", mark '=',
        .atom (.string "home.city" "\"home.city\"")]] }]

/-- What is derived for dwellings. -/
def dwellingFields : List DerivedField := [
  { storageName := "city", queryName := "home.city", constant := "HOME_CITY", kind := .text,
    declared := .simple .text, caseSensitive := none,
    storage := { optional := false, container := .scalar, element := [word "String"] } }]

set_option maxRecDepth 4000 in
theorem derive_dwelling : dwelling.derive = .ok dwellingFields := by
  rfl

/-- Of two names that match, only the first names its own field, and a name with a dot does not. -/
theorem constant_namesOwn_iff_mainHome :
    (FieldType.entity (resident.schema placeTypes residentFields)).NamedAt "mainHome" 0 ∧
      ¬ (FieldType.entity (resident.schema placeTypes residentFields)).NamedAt "mainhome" 1 ∧
        ¬ (FieldType.entity (dwelling.schema placeTypes dwellingFields)).NamedAt
          "home.city" 0 := by
  refine ⟨?_, ?_, ?_⟩
  · have named := constant_namesOwn_iff resident [] [residentFields[1]] residentFields[0]
      derive_resident placeTypes
    exact named.mpr ⟨by decide, by simp⟩
  · have named := constant_namesOwn_iff resident [residentFields[0]] [] residentFields[1]
      derive_resident placeTypes
    intro isNamed
    have noneBefore := (named.mp isNamed).2 residentFields[0] (by simp)
    exact absurd noneBefore (by decide)
  · have named := constant_namesOwn_iff dwelling [] [] dwellingFields[0] derive_dwelling placeTypes
    intro isNamed
    exact absurd (named.mp isNamed).1 (by decide)

end Declaration

end FieldSearch
