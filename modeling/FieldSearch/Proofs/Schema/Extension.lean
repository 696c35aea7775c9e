import FieldSearch.Proofs.Path.Names
import FieldSearch.Schema

namespace FieldSearch

/-!
# Extended schemas

A schema is declared step by step, and each step adds an attribute, a stored field,
or both under one name. What is added comes last, and lookups find the first match.
So an added name is found only where nothing else matches, and a lookup of a name
that does not match it has the same answer before and after.
-/

/-- A step in the declaration of a schema. -/
inductive SchemaStep where
  /-- A field with single values of any type. -/
  | scalar (name : String) (declared : FieldType)
  /-- A field with a container of elements of any type. -/
  | collection (name : String) (element : FieldType) (container : Container)
  /-- A field with a nested record. -/
  | entity (name : String) (schema : EntitySchema)
  /-- A field whose type is known by name alone. -/
  | foreign (name typeName : String)
  /-- An attribute without a stored field. -/
  | named (added : Attribute)
  /-- A stored field without an attribute. -/
  | stored (added : RawField)

/-- Take one more step in the declaration of a schema. -/
def EntityOf.extend (schema : EntitySchema) : SchemaStep → EntitySchema
  | .scalar name declared => schema.addField name declared .scalar
  | .collection name element container => schema.addField name element container
  | .entity name inner => schema.addField name (.entity inner) .scalar
  | .foreign name typeName => schema.addField name (.foreign typeName) .scalar
  | .named added => schema.addAttribute added.name added.declared added.caseSensitive
  | .stored added => schema.addRawField added.name added.container

/-- Take more steps in the declaration of a schema, in order. -/
def EntityOf.extendAll (schema : EntitySchema) (steps : List SchemaStep) : EntitySchema :=
  steps.foldl EntityOf.extend schema

namespace SchemaStep

/-- The name of what a step adds. -/
def name : SchemaStep → String
  | scalar name _ => name
  | collection name _ _ => name
  | entity name _ => name
  | foreign name _ => name
  | named added => added.name
  | stored added => added.name

/-- The attribute that a step adds, if it adds one. -/
def attributes : SchemaStep → List Attribute
  | scalar name declared => [⟨name, declared, none⟩]
  | collection name element _ => [⟨name, element, none⟩]
  | entity name inner => [⟨name, .entity inner, none⟩]
  | foreign name typeName => [⟨name, .foreign typeName, none⟩]
  | named added => [added]
  | stored _ => []

/-- The stored field that a step adds, if it adds one. -/
def rawFields : SchemaStep → List RawField
  | scalar name _ => [⟨name, .scalar⟩]
  | collection name _ container => [⟨name, container⟩]
  | entity name _ => [⟨name, .scalar⟩]
  | foreign name _ => [⟨name, .scalar⟩]
  | named _ => []
  | stored added => [added]

theorem name_of_mem_attributes
    {step : SchemaStep}
    {added : Attribute}
    (member : added ∈ step.attributes) :
    added.name = step.name := by
  cases step <;> simp_all [attributes, name]

theorem name_of_mem_rawFields
    {step : SchemaStep}
    {added : RawField}
    (member : added ∈ step.rawFields) :
    added.name = step.name := by
  cases step <;> simp_all [rawFields, name]

end SchemaStep

namespace EntityOf

variable (schema : EntitySchema)

@[simp] theorem name_extend (step : SchemaStep) :
    (schema.extend step).name = schema.name := by
  cases step <;> rfl

@[simp] theorem attributes_extend (step : SchemaStep) :
    (schema.extend step).attributes = schema.attributes ++ step.attributes := by
  cases step <;>
    simp [extend, addField, addAttribute, addRawField, SchemaStep.attributes]

@[simp] theorem rawFields_extend (step : SchemaStep) :
    (schema.extend step).rawFields = schema.rawFields ++ step.rawFields := by
  cases step <;>
    simp [extend, addField, addAttribute, addRawField, SchemaStep.rawFields]

@[simp] theorem name_extendAll (steps : List SchemaStep) :
    (schema.extendAll steps).name = schema.name := by
  induction steps generalizing schema with
  | nil =>
      rfl
  | cons step steps inductionHypothesis =>
      rw [extendAll, List.foldl_cons, ← extendAll, inductionHypothesis, name_extend]

theorem attributes_extendAll (steps : List SchemaStep) :
    (schema.extendAll steps).attributes =
      schema.attributes ++ steps.flatMap SchemaStep.attributes := by
  induction steps generalizing schema with
  | nil =>
      simp [extendAll]
  | cons step steps inductionHypothesis =>
      rw [extendAll, List.foldl_cons, ← extendAll, inductionHypothesis, attributes_extend,
        List.flatMap_cons, List.append_assoc]

theorem rawFields_extendAll (steps : List SchemaStep) :
    (schema.extendAll steps).rawFields =
      schema.rawFields ++ steps.flatMap SchemaStep.rawFields := by
  induction steps generalizing schema with
  | nil =>
      simp [extendAll]
  | cons step steps inductionHypothesis =>
      rw [extendAll, List.foldl_cons, ← extendAll, inductionHypothesis, rawFields_extend,
        List.flatMap_cons, List.append_assoc]

end EntityOf

/-- Names that match no attribute of a schema are not the name of one. -/
theorem EntityOf.name_ne_of_mem_attributes
    {schema : EntitySchema}
    {steps : List SchemaStep}
    (fresh :
      ∀ step ∈ steps, ∀ member ∈ schema.attributes,
        namesMatch member.name step.name = false)
    {member : Attribute}
    (isMember : member ∈ schema.attributes) :
    ∀ step ∈ steps, step.name ≠ member.name := by
  intro step stepMember same
  have apart := fresh step stepMember member isMember
  rw [same, namesMatch_eq_sameLetters, sameLetters_refl] at apart
  cases apart

namespace FieldType

theorem mem_attributes_of_require
    {type : FieldType}
    {name : String}
    {found : Attribute}
    (required : type.require name = .ok found) :
    found ∈ type.attributes := by
  unfold require at required
  split at required
  · next isFound =>
      cases required
      exact List.mem_of_find?_eq_some isFound
  · cases required

variable
  (schema : EntitySchema)
  {steps : List SchemaStep}
  {name : String}

/-- Nothing that is added is found by a name that does not match it. -/
theorem find?_extendAll
    (elsewhere : ∀ step ∈ steps, namesMatch step.name name = false) :
    (FieldType.entity (schema.extendAll steps)).find? name =
      (FieldType.entity schema).find? name := by
  have noneAdded :
      (steps.flatMap SchemaStep.attributes).find? (namesMatch ·.name name) = none := by
    rw [List.find?_eq_none]
    intro added member
    obtain ⟨step, stepMember, isAdded⟩ := List.mem_flatMap.mp member
    rw [SchemaStep.name_of_mem_attributes isAdded, elsewhere step stepMember]
    exact Bool.false_ne_true
  rw [find?, find?, attributes, attributes, schema.attributes_extendAll, List.find?_append,
    noneAdded, Option.or_none]

/-- No stored field that is added has a name that no step has. -/
theorem rawField?_extendAll
    (unnamed : ∀ step ∈ steps, step.name ≠ name) :
    (FieldType.entity (schema.extendAll steps)).rawField? name =
      (FieldType.entity schema).rawField? name := by
  have noneAdded : (steps.flatMap SchemaStep.rawFields).find? (·.name == name) = none := by
    rw [List.find?_eq_none]
    intro added member
    obtain ⟨step, stepMember, isAdded⟩ := List.mem_flatMap.mp member
    rw [SchemaStep.name_of_mem_rawFields isAdded, beq_iff_eq]
    exact unnamed step stepMember
  rw [rawField?, rawField?, schema.rawFields_extendAll, List.find?_append, noneAdded,
    Option.or_none]

theorem fieldShape_extendAll
    (unnamed : ∀ step ∈ steps, step.name ≠ name) :
    (FieldType.entity (schema.extendAll steps)).fieldShape name =
      (FieldType.entity schema).fieldShape name := by
  rw [fieldShape, fieldShape, rawShape?, rawShape?, rawField?_extendAll schema unnamed]

theorem require_extendAll
    (elsewhere : ∀ step ∈ steps, namesMatch step.name name = false) :
    (FieldType.entity (schema.extendAll steps)).require name =
      (FieldType.entity schema).require name := by
  rw [require, require, find?_extendAll schema elsewhere]
  simp only [FieldType.name, schema.name_extendAll]

/-- A walk is the same from its first segment on. -/
theorem walk_extendAll
    (elsewhere : ∀ step ∈ steps, namesMatch step.name name = false)
    (rest : List String) :
    (FieldType.entity (schema.extendAll steps)).walk (name :: rest) =
      (FieldType.entity schema).walk (name :: rest) := by
  rw [walk, walk, require_extendAll schema elsewhere]

end FieldType

end FieldSearch
