import FieldSearch.Proofs.Lookup
import FieldSearch.Proofs.Path.Route

namespace FieldSearch

open Outcomes

/-!
# Schemas in another order

Two types are reorderings of each other if they list the same attributes and
stored fields, each in an order of its own, at every depth of nesting. Lookups
are scans for the first match. They nevertheless agree on reordered types if the
names in each record type are distinct: no two attributes match the same name
then, and no two stored fields have it.
-/

/-- Two attributes agree except for their declared types, which are related. -/
inductive AttributeOf.Alike (related : τ → τ → Prop) : AttributeOf τ → AttributeOf τ → Prop where
  | mk
      {name : String}
      {declared otherDeclared : τ}
      {caseSensitive : Option Bool} :
      related declared otherDeclared →
      Alike related ⟨name, declared, caseSensitive⟩ ⟨name, otherDeclared, caseSensitive⟩

/-- Two record types list alike attributes and the same stored fields, each in its own order. -/
inductive EntityOf.Reordered (related : τ → τ → Prop) : EntityOf τ → EntityOf τ → Prop where
  | mk
      {name : String}
      {attributes counterparts others : List (AttributeOf τ)}
      {rawFields otherRawFields : List RawField} :
      List.Forall₂ (AttributeOf.Alike related) attributes counterparts →
      counterparts.Perm others →
      rawFields.Perm otherRawFields →
      Reordered related ⟨name, attributes, rawFields⟩ ⟨name, others, otherRawFields⟩

namespace FieldType

/-- Two types differ at most in the order in which record types list what is in them. -/
inductive Reordered : FieldType → FieldType → Prop where
  | value (type : ValueType) :
      Reordered (.value type) (.value type)
  | foreign (name : String) :
      Reordered (.foreign name) (.foreign name)
  | entity
      {left right : EntitySchema} :
      EntityOf.Reordered Reordered left right →
      Reordered (.entity left) (.entity right)

/--
In no record type, at any depth, do two attributes have matching names or two
stored fields the same name.
-/
inductive Unambiguous : FieldType → Prop where
  | value (type : ValueType) :
      Unambiguous (.value type)
  | foreign (name : String) :
      Unambiguous (.foreign name)
  | entity
      {schema : EntitySchema} :
      (schema.attributes.map (·.name)).Pairwise
          (fun first second => namesMatch first second = false) →
      (schema.rawFields.map (·.name)).Nodup →
      (∀ member ∈ schema.attributes, Unambiguous member.declared) →
      Unambiguous (.entity schema)

end FieldType

namespace AttributeOf.Alike

variable
  {related : τ → τ → Prop}
  {left right : AttributeOf τ}

theorem name_eq (alike : Alike related left right) :
    left.name = right.name := by
  cases alike
  rfl

theorem declared_related (alike : Alike related left right) :
    related left.declared right.declared := by
  cases alike with
  | mk declared =>
      exact declared

theorem caseSensitive_eq (alike : Alike related left right) :
    left.caseSensitive = right.caseSensitive := by
  cases alike
  rfl

theorem map_name_eq
    {attributes counterparts : List (AttributeOf τ)}
    (itemwise : List.Forall₂ (Alike related) attributes counterparts) :
    attributes.map (·.name) = counterparts.map (·.name) := by
  induction itemwise with
  | nil =>
      rfl
  | cons first rest inductionHypothesis =>
      rw [List.map_cons, List.map_cons, first.name_eq, inductionHypothesis]

end AttributeOf.Alike

/-- Of attributes whose names do not match each other, at most one matches a name. -/
theorem eq_of_namesMatch
    {attributes : List (AttributeOf τ)}
    (distinct :
      (attributes.map (·.name)).Pairwise
        (fun first second => namesMatch first second = false))
    {name : String}
    {first second : AttributeOf τ}
    (firstMember : first ∈ attributes)
    (secondMember : second ∈ attributes)
    (firstMatches : namesMatch first.name name = true)
    (secondMatches : namesMatch second.name name = true) :
    first = second := by
  by_contra different
  rw [List.pairwise_map] at distinct
  simp only [namesMatch_eq_sameLetters] at distinct firstMatches secondMatches
  have symmetric :
      Std.Symm fun first second : AttributeOf τ =>
        sameLetters first.name second.name = false := by
    constructor
    intro first second apart
    rw [sameLetters_comm]
    exact apart
  have apart := distinct.forall firstMember secondMember different
  rw [sameLetters_comm] at secondMatches
  have together := sameLetters_trans firstMatches secondMatches
  rw [apart] at together
  cases together

namespace FieldType

theorem Unambiguous.pairwise_names
    {type : FieldType}
    (unambiguous : type.Unambiguous) :
    (type.attributes.map (·.name)).Pairwise
      (fun first second => namesMatch first second = false) := by
  cases unambiguous with
  | value | «foreign» =>
      exact .nil
  | entity names _ _ =>
      exact names

theorem Unambiguous.declared
    {type : FieldType}
    (unambiguous : type.Unambiguous)
    {member : Attribute}
    (isMember : member ∈ type.attributes) :
    member.declared.Unambiguous := by
  cases unambiguous with
  | value | «foreign» =>
      cases isMember
  | entity _ _ members =>
      exact members member isMember

namespace Reordered

variable
  {left right : FieldType}
  (reordered : left.Reordered right)

include reordered

theorem name_eq : left.name = right.name := by
  cases reordered with
  | value | «foreign» =>
      rfl
  | entity entities =>
      cases entities
      rfl

theorem exists_counterparts :
    ∃ counterparts,
      List.Forall₂ (AttributeOf.Alike Reordered) left.attributes counterparts ∧
        counterparts.Perm right.attributes := by
  cases reordered with
  | value | «foreign» =>
      exact ⟨[], .nil, .nil⟩
  | entity entities =>
      cases entities with
      | mk itemwise permuted _ =>
          exact ⟨_, itemwise, permuted⟩

/-- The stored field of a name is the same in both orders. -/
theorem rawField?_eq
    (unambiguous : left.Unambiguous)
    (name : String) :
    left.rawField? name = right.rawField? name := by
  cases reordered with
  | value | «foreign» =>
      rfl
  | entity entities =>
      cases entities with
      | mk _ _ stored =>
          cases unambiguous with
          | entity _ distinct _ =>
              refine Lookup.find?_eq_of_perm stored ?_
              intro first firstMember second secondMember isFirst isSecond
              refine List.inj_on_of_nodup_map distinct firstMember secondMember ?_
              rw [beq_iff_eq.mp isFirst, beq_iff_eq.mp isSecond]

theorem fieldShape_eq
    (unambiguous : left.Unambiguous)
    (name : String) :
    left.fieldShape name = right.fieldShape name := by
  rw [fieldShape, fieldShape, rawShape?, rawShape?, reordered.rawField?_eq unambiguous]

/-- A name is that of alike attributes in both orders, or of none in either. -/
theorem rel_find?
    (unambiguous : left.Unambiguous)
    (name : String) :
    Option.Rel (AttributeOf.Alike Reordered) (left.find? name) (right.find? name) := by
  obtain ⟨counterparts, itemwise, permuted⟩ := reordered.exists_counterparts
  have distinct := unambiguous.pairwise_names
  rw [AttributeOf.Alike.map_name_eq itemwise] at distinct
  have sameFound : counterparts.find? (namesMatch ·.name name) = right.find? name := by
    refine Lookup.find?_eq_of_perm permuted ?_
    intro first firstMember second secondMember
    exact eq_of_namesMatch distinct firstMember secondMember
  rw [← sameFound]
  refine Lookup.rel_find?_of_forall₂ ?_ itemwise
  intro own counterpart alike
  rw [alike.name_eq]

/-- What a name requires is found in both orders, or is missed with the same error. -/
theorem agree_require
    (unambiguous : left.Unambiguous)
    (name : String) :
    Agree (fun found other => AttributeOf.Alike Reordered found other ∧ found.declared.Unambiguous)
      (left.require name) (right.require name) := by
  have together := reordered.rel_find? unambiguous name
  unfold require
  generalize isFound : left.find? name = found at together ⊢
  generalize right.find? name = other at together ⊢
  cases together with
  | none =>
      rw [reordered.name_eq]
      exact .error _
  | some alike =>
      exact .ok ⟨alike, unambiguous.declared (List.mem_of_find?_eq_some isFound)⟩

/-- Both orders are walked through by the same names to types that are reordered in turn. -/
theorem agree_walk
    (unambiguous : left.Unambiguous)
    (segments : List String) :
    Agree
      (fun reached other =>
        reached.1 = other.1 ∧ reached.2.Reordered other.2 ∧ reached.2.Unambiguous)
      (left.walk segments) (right.walk segments) := by
  induction segments generalizing left right with
  | nil =>
      exact .ok ⟨rfl, reordered, unambiguous⟩
  | cons segment segments inductionHypothesis =>
      rw [walk, walk]
      refine (reordered.agree_require unambiguous segment).bind ?_
      rintro found other ⟨alike, foundUnambiguous⟩
      refine (inductionHypothesis alike.declared_related foundUnambiguous).bind ?_
      rintro ⟨names, context⟩ ⟨otherNames, otherContext⟩ ⟨sameNames, contexts, unambiguous⟩
      obtain rfl : names = otherNames := sameNames
      exact .ok ⟨by rw [alike.name_eq], contexts, unambiguous⟩

end Reordered

end FieldType

/-- Keys are resolved alike in both orders. -/
theorem FieldType.Reordered.agree_resolve
    {left right : FieldType}
    (reordered : left.Reordered right)
    (unambiguous : left.Unambiguous)
    (key : String) :
    Agree
      (fun resolved other =>
        resolved.segments = other.segments ∧
          resolved.terminal = other.terminal ∧
            resolved.context.Reordered other.context ∧ resolved.context.Unambiguous)
      (resolve left key) (resolve right key) := by
  unfold resolve
  dsimp only
  split
  · exact .error _
  · refine (reordered.agree_walk unambiguous (Key.enclosing key)).bind ?_
    rintro ⟨names, context⟩ ⟨otherNames, otherContext⟩ ⟨sameNames, contexts, unambiguous⟩
    exact .ok ⟨sameNames, rfl, contexts, unambiguous⟩

end FieldSearch
