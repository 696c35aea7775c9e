import FieldSearch.Error
import FieldSearch.Key
import FieldSearch.Schema
import FieldSearch.Text.Case

namespace FieldSearch

/-!
# Paths

A key is resolved against a schema segment by segment: each segment before the
last has to name an attribute, whose declared type is searched next. Names are
compared without regard to letter case, and a path records the names as they
are declared.
-/

/-- Equality of names up to the case of ASCII letters. -/
def sameAsciiLetters (left right : String) : Bool :=
  left.toList.map Text.asciiLower == right.toList.map Text.asciiLower

/-- Equality of names up to the case of all letters, character by character. -/
def sameLetters (left right : String) : Bool :=
  left.toList.flatMap Text.lowerForm == right.toList.flatMap Text.lowerForm

/-- Equality of names without regard to letter case. -/
def namesMatch (declared requested : String) : Bool :=
  sameAsciiLetters declared requested || sameLetters declared requested

/-- The location of a field within a record. -/
structure FieldPath where
  segments : List String
  field : String
  deriving Repr, DecidableEq

namespace FieldPath

/-- All names of a path, the field's own last. -/
def parts (path : FieldPath) : List String :=
  path.segments ++ [path.field]

/-- The path whose last part is the field; none for no parts. -/
def ofParts? (parts : List String) : Option FieldPath :=
  parts.getLast?.map fun field => { segments := parts.dropLast, field := field }

/-- The dotted form of a path. -/
def toText (path : FieldPath) : String :=
  Key.join path.parts

end FieldPath

namespace FieldType

/-- The first attribute whose name matches. -/
def find? (type : FieldType) (name : String) : Option Attribute :=
  type.attributes.find? (namesMatch ·.name name)

/--
Look up an attribute. Asking a structured type for an attribute that it does
not have is an error; a type without structure just has none.
-/
def lookup
    (type : FieldType)
    (name : String) :
    Except SearchError (Option Attribute) :=
  match type.find? name with
  | some found => .ok (some found)
  | none =>
      if type.isStructured then
        .error (.fieldNotFound name type.name)
      else
        .ok none

/-- Look up an attribute that has to exist. -/
def require (type : FieldType) (name : String) : Except SearchError Attribute :=
  match type.find? name with
  | some found => .ok found
  | none => .error (.fieldNotFound name type.name)

/-- Walk through attributes, collecting their declared names. -/
def walk :
    FieldType →
    List String →
    Except SearchError (List String × FieldType)
  | context, [] => .ok ([], context)
  | context, segment :: rest => do
      let found ← context.require segment
      let (names, inner) ← walk found.declared rest
      return (found.name :: names, inner)

end FieldType

/-- A key whose segments before the last have been walked. -/
structure ResolvedKey where
  /-- The declared names of the attributes walked through. -/
  segments : List String
  /-- The type that the last segment is to be looked up in. -/
  context : FieldType
  terminal : String
  deriving Repr

namespace ResolvedKey

/-- The path of a field in the context. -/
def fieldPath (resolved : ResolvedKey) (field : String) : FieldPath :=
  { segments := resolved.segments, field := field }

end ResolvedKey

/-- Resolve a key up to its last segment, which must not be empty. -/
def resolve (root : FieldType) (key : String) : Except SearchError ResolvedKey :=
  let terminal := Key.terminal key
  if terminal.isEmpty then
    .error (.invalidKey key)
  else do
    let (segments, context) ← root.walk (Key.enclosing key)
    return { segments := segments, context := context, terminal := terminal }

end FieldSearch
