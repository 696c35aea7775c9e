import FieldSearch.Declaration.ConstantName
import FieldSearch.Declaration.Options
import FieldSearch.Declaration.TypeText
import FieldSearch.Text.Identifier

namespace FieldSearch

/-!
# Deriving a schema from a declaration

The declaration of a struct gives, for each searchable field, a constant with
its name, an attribute and a stored field of the schema, and the way to read its
value from a record. Fields are independent of each other and keep their order.
`Declaration.derive` says what is known of each searchable field, and
`Declaration.expand` collects what is generated for it.
-/

namespace Declaration

/-- The sorts of declarations. -/
inductive ItemSort where
  /-- A struct with named fields. -/
  | struct
  | tuple
  | unit
  | enumeration
  | union
  deriving Repr, DecidableEq

/-- A field of a declaration. -/
structure FieldDeclaration where
  name : String
  type : List Token
  attributes : List (List Token)
  deriving Repr

end Declaration

/-- A declaration. -/
structure Declaration where
  sort : Declaration.ItemSort
  name : String
  /-- The parameters in angle brackets, if there are any, and what follows them. -/
  parameters : List Declaration.Token
  fields : List Declaration.FieldDeclaration
  deriving Repr

namespace Declaration

/-- The declared type of an attribute. -/
inductive DeclaredType where
  /-- Single values of a kind other than enumeration. -/
  | simple (kind : SearchKind)
  | enumeration (name element : String)
  | entity (element : String)
  deriving Repr, DecidableEq

/-- How an element is made a field value. -/
inductive Conversion where
  /-- By its kind; an entity as a whole has no value. -/
  | byKind (kind : SearchKind)
  /-- By looking up the rest of the path in it. -/
  | nested
  deriving Repr, DecidableEq

/-- The name of a conversion. -/
def Conversion.name : Conversion → String
  | byKind .text => "text"
  | byKind .integer => "integer"
  | byKind .decimal => "decimal"
  | byKind .boolean => "boolean"
  | byKind .temporal => "temporal"
  | byKind .enumeration => "enum"
  | byKind .entity => "none"
  | nested => "nested"

/-- What is derived from a searchable field. -/
structure DerivedField where
  /-- The name of the field in the declaration. -/
  storageName : String
  /-- The name that searches use. -/
  queryName : String
  constant : String
  kind : SearchKind
  declared : DeclaredType
  caseSensitive : Option Bool
  storage : Storage
  deriving Repr

/-- A way to read a value: for a path that is a name, or that starts with it. -/
structure Arm where
  name : String
  /-- The arm is for longer paths that start with the name. -/
  isRest : Bool
  /-- The field that is read. -/
  field : String
  optional : Bool
  list : Bool
  conversion : Conversion
  deriving Repr, DecidableEq

namespace DerivedField

/-- The arm of a field for one form of path. -/
def arm (field : DerivedField) (isRest : Bool) (conversion : Conversion) : Arm :=
  { name := field.queryName
    isRest := isRest
    field := field.storageName
    optional := field.storage.optional
    list := field.storage.isList
    conversion := conversion }

/-- The arms of a field; an entity has one for the paths through it. -/
def arms (field : DerivedField) : List Arm :=
  let own := field.arm false (.byKind field.kind)
  if field.kind = .entity then [own, field.arm true .nested] else [own]

/-- The stored field of a derived field. -/
def toRawField (field : DerivedField) : RawField :=
  { name := field.storageName, container := field.storage.container }

end DerivedField

/-- A constant: its name, and the query name that it holds. -/
structure Constant where
  name : String
  value : String
  deriving Repr, DecidableEq

/-- An entry of a schema: a named attribute and the stored field behind it. -/
structure SchemaEntry where
  named : AttributeOf DeclaredType
  stored : RawField
  deriving Repr

/-- What is generated for fields. -/
@[ext] structure Expansion where
  constants : List Constant := []
  entries : List SchemaEntry := []
  arms : List Arm := []
  deriving Repr

namespace DerivedField

/-- The constant of a derived field. -/
def toConstant (field : DerivedField) : Constant :=
  { name := field.constant, value := field.queryName }

/-- The schema entry of a derived field. -/
def toEntry (field : DerivedField) : SchemaEntry :=
  { named := ⟨field.queryName, field.declared, field.caseSensitive⟩
    stored := field.toRawField }

end DerivedField

/-- The declared type of a field of the given kind. -/
def declaredType (kind : SearchKind) (storage : Storage) : Except DeriveError DeclaredType :=
  match kind with
  | .enumeration =>
      match storage.elementName? with
      | some name => .ok (.enumeration name storage.elementText)
      | none => .error .unnamedEnumeration
  | .entity => .ok (.entity storage.elementText)
  | kind => .ok (.simple kind)

namespace FieldDeclaration

/-- What is derived from a field of the given kind. -/
def deriveAs
    (field : FieldDeclaration)
    (options : SearchOptions)
    (kind : SearchKind) :
    Except DeriveError DerivedField := do
  let queryName := options.rename.getD field.name
  let constant := constantName queryName
  if Text.isIdentifier constant then
    let storage := Storage.ofType field.type
    let declared ← declaredType kind storage
    return {
      storageName := field.name
      queryName := queryName
      constant := constant
      kind := kind
      declared := declared
      caseSensitive := options.caseSensitive
      storage := storage
    }
  else
    .error (.badConstantName constant)

/-- What is derived from a field: nothing if it is left out or has no kind. -/
def derive (field : FieldDeclaration) : Except DeriveError (Option DerivedField) := do
  let options ← SearchOptions.ofAttributes field.attributes
  match options.skip, options.kind with
  | false, some kind => return some (← field.deriveAs options kind)
  | _, _ => return none

end FieldDeclaration

/-- A parameter without the attributes before it. -/
def withoutAttributes : List Token → List Token
  | mark :: .group .square content :: rest =>
      if mark.isMark '#' then
        withoutAttributes rest
      else
        mark :: .group .square content :: rest
  | tokens => tokens

/-- A parameter as it is passed on: by its name only. -/
def passedOn (parameter : Argument) : Argument :=
  let tokens := withoutAttributes parameter.content
  let named := if startsWithName "const" tokens then tokens.drop 1 else tokens
  { parameter with content := named.take 1 }

/-- The parameters of a declaration, lifetimes first. -/
def parameterList (declaration : Declaration) : List Argument :=
  if startsWith "<" declaration.parameters then
    let (inside, _) := splitAngle (declaration.parameters.drop 1)
    Argument.arrange ((Argument.listOf inside).map passedOn)
  else
    []

/-- The type that a declaration declares, with its parameters passed on. -/
def selfType (declaration : Declaration) : String :=
  let parameters := declaration.parameterList
  if parameters.isEmpty then
    declaration.name
  else
    declaration.name ++ "<" ++ Token.sources (Argument.join parameters) ++ ">"

/-- What is derived from the searchable fields, in order. -/
def deriveFields (fields : List FieldDeclaration) : Except DeriveError (List DerivedField) :=
  (fields.mapM FieldDeclaration.derive).map (·.filterMap id)

/-- Add what is generated for one more field; nothing if nothing is derived from it. -/
def Expansion.add
    (expansion : Expansion)
    (field : FieldDeclaration) :
    Except DeriveError Expansion := do
  match ← field.derive with
  | none => return expansion
  | some derived => return {
      constants := expansion.constants ++ [derived.toConstant]
      entries := expansion.entries ++ [derived.toEntry]
      arms := expansion.arms ++ derived.arms
    }

/-- What is generated for fields, one after the other. -/
def expandFields (fields : List FieldDeclaration) : Except DeriveError Expansion :=
  fields.foldlM Expansion.add {}

/-- What is derived from a declaration, which has to be a struct with named fields. -/
def derive (declaration : Declaration) : Except DeriveError (List DerivedField) :=
  match declaration.sort with
  | .struct => deriveFields declaration.fields
  | .tuple | .unit => .error .unnamedFields
  | .enumeration | .union => .error .notStruct

/-- What is generated for a declaration, which has to be a struct with named fields. -/
def expand (declaration : Declaration) : Except DeriveError Expansion :=
  match declaration.sort with
  | .struct => expandFields declaration.fields
  | .tuple | .unit => .error .unnamedFields
  | .enumeration | .union => .error .notStruct

end Declaration

end FieldSearch
