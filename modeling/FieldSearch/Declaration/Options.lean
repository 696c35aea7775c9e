import FieldSearch.Declaration.Expression

namespace FieldSearch.Declaration

/-!
# Search options

A field is declared searchable by options in an attribute `search(...)`: its
kind, another name to query it by, its treatment of letter case, or that it be
left out. Options are read in two steps. The first splits the attribute into
items whatever they say; the second makes an option of each, in order. Of several
options for the same thing the last one counts.
-/

/-- The kind of a searchable field. -/
inductive SearchKind where
  | text
  | integer
  | decimal
  | boolean
  | temporal
  | enumeration
  | entity
  deriving Repr, DecidableEq

namespace SearchKind

/-- Every kind, in the order in which messages list them. -/
def all : List SearchKind :=
  [text, integer, decimal, boolean, temporal, enumeration, entity]

/-- The name of a kind in messages. -/
def name : SearchKind → String
  | text => "Text"
  | integer => "Integer"
  | decimal => "Decimal"
  | boolean => "Boolean"
  | temporal => "Temporal"
  | enumeration => "Enum"
  | entity => "Entity"

/-- Every name that a kind may be declared with. -/
def names : SearchKind → List String
  | text => ["Text", "text", "String", "string"]
  | integer => ["Integer", "integer", "Int", "int"]
  | decimal => ["Decimal", "decimal"]
  | boolean => ["Boolean", "boolean", "Bool", "bool"]
  | temporal => ["Temporal", "temporal", "Timestamp", "timestamp"]
  | enumeration => ["Enum", "enum", "enumeration"]
  | entity => ["Entity", "entity"]

/-- The kind declared with the given name. -/
def ofName? (name : String) : Option SearchKind :=
  all.find? fun kind => kind.names.contains name

/-- The kinds as messages list them. -/
def listing : String :=
  ", ".intercalate (all.map name)

end SearchKind

/-- Why nothing can be derived from a declaration. -/
inductive DeriveError where
  /-- The declaration is not a struct. -/
  | notStruct
  /-- The struct has no named fields. -/
  | unnamedFields
  /-- A text of the declaration is no sequence of tokens. -/
  | noTokens
  /-- The arguments of a search attribute are no list of items. -/
  | malformedAttribute (reason : Malformation)
  | unknownKind (name : String)
  /-- A path stands where the name of a kind is expected. -/
  | expectedKind
  /-- The value of an option is not a string literal. -/
  | expectedString (option : String)
  /-- An option with a value has an unknown name. -/
  | unknownAssignment
  /-- An option has arguments. -/
  | unknownForm
  /-- The type of an enumeration field has no name. -/
  | unnamedEnumeration
  /-- The name of a constant would not be an identifier. -/
  | badConstantName (name : String)
  deriving Repr, DecidableEq

/-- The wording of an error. -/
def DeriveError.message : DeriveError → String
  | notStruct => "Searchable can only be derived for structs"
  | unnamedFields => "Searchable can only be derived for structs with named fields"
  | noTokens => "cannot parse string into token stream"
  | malformedAttribute reason => reason.message
  | unknownKind name =>
      s!"unknown search kind: '{name}'. Expected one of: {SearchKind.listing}"
  | expectedKind => s!"expected search kind: {SearchKind.listing}, or skip"
  | expectedString option => s!"{option} must be a string literal"
  | unknownAssignment => "unknown attribute. Expected: rename or ty"
  | unknownForm =>
      "unknown search attribute. Expected a kind, skip, case_insensitive, case_sensitive, " ++
        "rename = \"...\", or ty = \"...\""
  | unnamedEnumeration => "enum fields must have a named type"
  | badConstantName name => s!"'{name}' is not an identifier"

/-- The path that an item starts with: a single name, or several parts. -/
inductive ItemPath where
  | single (name : String)
  | several
  deriving Repr, DecidableEq

/-- An item of an attribute. -/
inductive Item where
  | path (path : ItemPath)
  | assignment (path : ItemPath) (value : ItemValue)
  /-- A path with arguments in brackets. -/
  | list
  deriving Repr, DecidableEq

namespace Item

/-- Read the parts of a path that has no arguments, with a bound on their number. -/
def readParts : Nat → Reading (List String)
  | 0 => return []
  | fuel + 1 => do
      match ← get with
      | .atom (.name name) :: rest =>
          if keywords.contains name && !pathKeywords.contains name then
            return []
          else
            set rest
            if ← Reading.skipOperator "::" then
              let parts ← readParts fuel
              if parts.isEmpty then Reading.fail ("path segment after " ++ quoted "::")
              return name :: parts
            else
              return [name]
      | _ => return []

/-- Read the path that an item starts with. -/
def readPath : Reading ItemPath := do
  if ← Reading.skipKeyword "unsafe" then
    return .single "unsafe"
  else
    let isRooted ← Reading.skipOperator "::"
    match isRooted, ← readParts (← get).length with
    | false, [name] => return .single name
    | _, [] => ItemPath.single <$> Reading.needName
    | _, _ => return .several

/-- Read the value of an item. -/
def readValue : Reading ItemValue := do
  let tokens ← get
  if startsWith "#" tokens && startsWithGroup .square (tokens.drop 1) then
    throw .valueAttribute
  else
    return (← Reading.expression true (16 * (Token.sizes tokens + 1))).value

/-- Read an item. -/
def read : Reading Item := do
  let start ← readPath
  let tokens ← get
  if startsWithAnyGroup tokens then
    Reading.skip 1
    return .list
  else if startsWith "=" tokens && !startsWith "==" tokens && !startsWith "=>" tokens then
    Reading.skip 1
    return .assignment start (← readValue)
  else
    return .path start

/-- The items that tokens make up, where the last may be followed by a comma. -/
def listOf (tokens : List Token) : Except DeriveError (List Item) :=
  ((Reading.separated read tokens.length).run' tokens).mapError .malformedAttribute

end Item

/-- An option of a searchable field. -/
inductive SearchOption where
  | kind (kind : SearchKind)
  | rename (name : String)
  | caseSensitive (setting : Bool)
  | skip
  deriving Repr, DecidableEq

namespace SearchOption

/-- The option for a kind with the given name. -/
def ofKindName (name : String) : Except DeriveError SearchOption :=
  match SearchKind.ofName? name with
  | some found => .ok (kind found)
  | none => .error (.unknownKind name)

/-- The string that an option has for its value. -/
def stringValue (option : String) : ItemValue → Except DeriveError String
  | .string value => .ok value
  | .other => .error (.expectedString option)

/-- The option that an item stands for. -/
def ofItem : Item → Except DeriveError SearchOption
  | .path (.single "skip") => .ok skip
  | .path (.single "case_insensitive") => .ok (caseSensitive false)
  | .path (.single "case_sensitive") => .ok (caseSensitive true)
  | .path (.single name) => ofKindName name
  | .path .several => .error .expectedKind
  | .assignment (.single "rename") value => (stringValue "rename" value).map rename
  | .assignment (.single "ty") value => stringValue "ty" value >>= ofKindName
  | .assignment _ _ => .error .unknownAssignment
  | .list => .error .unknownForm

end SearchOption

/-- What the options of a field say together. -/
structure SearchOptions where
  kind : Option SearchKind := none
  rename : Option String := none
  caseSensitive : Option Bool := none
  skip : Bool := false
  deriving Repr, DecidableEq

namespace SearchOptions

/-- Add an option, which overrides earlier ones for the same thing. -/
def add (options : SearchOptions) : SearchOption → SearchOptions
  | .kind kind => { options with kind := some kind }
  | .rename name => { options with rename := some name }
  | .caseSensitive setting => { options with caseSensitive := some setting }
  | .skip => { options with skip := true }

/-- What items say together; the first one that is no option decides the error. -/
def ofItems (items : List Item) : Except DeriveError SearchOptions := do
  let options ← items.mapM SearchOption.ofItem
  return options.foldl add {}

/-- What the arguments of a search attribute say. -/
def ofArguments (arguments : List Token) : Except DeriveError SearchOptions := do
  ofItems (← Item.listOf arguments)

/-- The tokens after the name of an attribute, if it is a search attribute. -/
def afterName? (tokens : List Token) : Option (List Token) :=
  let rest := tokens.drop 1
  if startsWithName "search" tokens && !startsWith "::" rest then some rest else none

/-- What the first search attribute among some attributes says. -/
def ofAttributes (attributes : List (List Token)) : Except DeriveError SearchOptions :=
  match attributes.findSome? afterName? with
  | none => .ok {}
  | some (.group _ arguments :: _) => ofArguments arguments
  | some [] => .error (.malformedAttribute .noArguments)
  | some _ => .error (.malformedAttribute .noBrackets)

end SearchOptions

end FieldSearch.Declaration
