namespace FieldSearch

/-!
# Schemas

A schema describes one type of record: the attributes that searches may name,
each with a declared type, and the fields that hold their values, each with the
container it is stored in. Searches resolve names in the attributes; whether a
field is a collection is read from the stored fields, by exact name.
-/

/-- The kinds of searchable values. -/
inductive ValueKind where
  | text
  | integer
  | decimal
  | boolean
  | temporal
  | enumeration
  deriving Repr, DecidableEq

namespace ValueKind

/-- Every kind, in declaration order. -/
def all : List ValueKind :=
  [text, integer, decimal, boolean, temporal, enumeration]

/-- The display name of a kind. -/
def name : ValueKind → String
  | text => "Text"
  | integer => "Integer"
  | decimal => "Decimal"
  | boolean => "Boolean"
  | temporal => "Temporal"
  | enumeration => "Enumeration"

/-- The kind with the given display name. -/
def ofName? (name : String) : Option ValueKind :=
  all.find? (·.name == name)

end ValueKind

/-- The type of a searchable value. -/
structure ValueType where
  kind : ValueKind
  name : String
  /-- The variants of an enumeration; empty for other kinds. -/
  variants : List String
  deriving Repr, DecidableEq

namespace ValueType

/-- The type of a kind, under the kind's own name. -/
def ofKind (kind : ValueKind) : ValueType :=
  { kind := kind, name := kind.name, variants := [] }

/-- An enumeration with the given variants. -/
def enumeration (name : String) (variants : List String) : ValueType :=
  { kind := .enumeration, name := name, variants := variants }

end ValueType

/-- The container that a field is stored in. -/
inductive Container where
  | scalar
  | array
  | sequence
  | set
  deriving Repr, DecidableEq

/-- Whether a field holds one value or a collection of values. -/
inductive FieldShape where
  | scalar
  | collection
  deriving Repr, DecidableEq

namespace Container

/-- The display name of a container. -/
def name : Container → String
  | scalar => "Scalar"
  | array => "Array"
  | sequence => "Sequence"
  | set => "Set"

/-- The container with the given display name. -/
def ofName? (name : String) : Option Container :=
  [scalar, array, sequence, set].find? (·.name == name)

/-- Every container except the scalar one holds a collection. -/
def shape : Container → FieldShape
  | scalar => .scalar
  | _ => .collection

end Container

/-- The display name of a shape. -/
def FieldShape.name : FieldShape → String
  | scalar => "Scalar"
  | collection => "Collection"

/-- A stored field. -/
structure RawField where
  name : String
  container : Container
  deriving Repr, DecidableEq

/-- A named attribute whose type is of some sort `τ`. -/
structure AttributeOf (τ : Type) where
  name : String
  declared : τ
  /-- The attribute's own setting for text comparisons, if it has one. -/
  caseSensitive : Option Bool
  deriving Repr

/-- A record type whose attributes have types of some sort `τ`. -/
structure EntityOf (τ : Type) where
  name : String
  attributes : List (AttributeOf τ)
  rawFields : List RawField
  deriving Repr

/-- The declared type of an attribute. -/
inductive FieldType where
  /-- A searchable value. -/
  | value (type : ValueType)
  /-- A nested record, whose attributes can be searched. -/
  | entity (schema : EntityOf FieldType)
  /-- A type from elsewhere, known by name alone. -/
  | foreign (name : String)
  deriving Repr

/-- An attribute of a schema. -/
abbrev Attribute := AttributeOf FieldType

/-- The schema of a record type. -/
abbrev EntitySchema := EntityOf FieldType

namespace FieldType

/-- The display name of a type. -/
def name : FieldType → String
  | value type => type.name
  | entity schema => schema.name
  | foreign name => name

/-- The attributes that can be named within a type. -/
def attributes : FieldType → List Attribute
  | entity schema => schema.attributes
  | _ => []

/-- A type whose attributes can be named, even if it has none. -/
def isStructured : FieldType → Bool
  | entity _ => true
  | _ => false

/-- The stored field with exactly the given name. -/
def rawField? (type : FieldType) (name : String) : Option RawField :=
  match type with
  | entity schema => schema.rawFields.find? (·.name == name)
  | _ => none

/-- The shape of the stored field with the given name. -/
def rawShape? (type : FieldType) (name : String) : Option FieldShape :=
  (type.rawField? name).map (·.container.shape)

/-- The shape of a named field; one that is not stored counts as a scalar. -/
def fieldShape (type : FieldType) (name : String) : FieldShape :=
  (type.rawShape? name).getD .scalar

end FieldType

namespace EntityOf

/-- A schema without attributes. -/
def empty (name : String) : EntitySchema :=
  { name := name, attributes := [], rawFields := [] }

/-- Add an attribute at the end. -/
def addAttribute
    (schema : EntitySchema)
    (name : String)
    (declared : FieldType)
    (caseSensitive : Option Bool) :
    EntitySchema :=
  { schema with attributes := schema.attributes ++ [⟨name, declared, caseSensitive⟩] }

/-- Add a stored field at the end. -/
def addRawField
    (schema : EntitySchema)
    (name : String)
    (container : Container) :
    EntitySchema :=
  { schema with rawFields := schema.rawFields ++ [⟨name, container⟩] }

/-- Add an attribute and the stored field of the same name. -/
def addField
    (schema : EntitySchema)
    (name : String)
    (declared : FieldType)
    (container : Container) :
    EntitySchema :=
  (schema.addAttribute name declared none).addRawField name container

end EntityOf

end FieldSearch
