import FieldSearch.Clause

namespace FieldSearch

/-!
# Searchable records

A type of records is searchable if it has a schema and gives a value for every
path, which is missing where the path leads nowhere. Such a type is described
field by field: each field takes part in the schema and answers for the paths
that start with its name.
-/

/-- A type whose values can be searched. -/
class Searchable (Record : Type) where
  schema : EntitySchema
  /-- The value at a path, given by its parts. -/
  valueAt : Record → List String → FieldValue

/-- A clause holds of a searchable record. -/
def Clause.holdsOf [Searchable Record] (clause : Clause) (record : Record) : Bool :=
  clause.accepts (Searchable.valueAt record clause.path.parts)

/-- How the values of a field are read. -/
inductive Access (Record : Type) where
  /-- The field has a value of its own. -/
  | own (read : Record → FieldValue)
  /-- The field leads to nested records, and takes the rest of a path. -/
  | through (read : Record → List String → FieldValue)

/-- A field of a type of records. -/
structure SearchField (Record : Type) where
  queryName : String
  storageName : String
  declared : FieldType
  container : Container
  caseSensitive : Option Bool := none
  access : Access Record

namespace SearchField

/-- The value that a field has by itself, where a nested record has none. -/
def ownValue (field : SearchField Record) (record : Record) : FieldValue :=
  match field.access with
  | .own read => read record
  | .through read => read record []

/-- The value of a longer path, if the field leads to nested records. -/
def nestedValue? (field : SearchField Record) (record : Record) (rest : List String) :
    Option FieldValue :=
  match field.access with
  | .own _ => none
  | .through read => some (read record rest)

/-- The schema that fields make up. -/
def schemaOf (name : String) (fields : List (SearchField Record)) : EntitySchema where
  name := name
  attributes := fields.map fun field => ⟨field.queryName, field.declared, field.caseSensitive⟩
  rawFields := fields.map fun field => ⟨field.storageName, field.container⟩

/-- The value of a path: that of the first field which answers for it. -/
def valueOf (fields : List (SearchField Record)) (record : Record) : List String → FieldValue
  | [] => .missing
  | [name] =>
      match fields.find? (·.queryName == name) with
      | some field => field.ownValue record
      | none => .missing
  | name :: rest =>
      ((fields.filter (·.queryName == name)).findSome? (·.nestedValue? record rest)).getD .missing

end SearchField

namespace FieldValue

/-- The value of something that may be missing. -/
def ofOption (convert : α → FieldValue) : Option α → FieldValue
  | some item => convert item
  | none => missing

/-- The values of the items of a list. -/
def ofList (convert : α → FieldValue) (items : List α) : FieldValue :=
  list (items.map convert)

/-- The value of a text. -/
def ofText (content : String) : FieldValue :=
  scalar (.text content)

/-- The value of an integer, missing if it has more than 64 bits with its sign. -/
def ofInt (number : Int) : FieldValue :=
  ofOption (fun integer => scalar (.integer integer)) (Numeral.int64? number)

/-- The value of a decimal. -/
def ofDecimal (number : Decimal) : FieldValue :=
  scalar (.decimal number)

/-- The value of a truth value. -/
def ofBool (truth : Bool) : FieldValue :=
  scalar (.boolean truth)

/-- The value of a point in time. -/
def ofTimestamp (point : Timestamp) : FieldValue :=
  scalar (.temporal point)

/-- The value of a variant. -/
def ofVariant (name : String) : FieldValue :=
  scalar (.variant name)

end FieldValue

end FieldSearch
