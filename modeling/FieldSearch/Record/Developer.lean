import FieldSearch.Decimal.Binary
import FieldSearch.Record.Searchable

namespace FieldSearch.Record

/-!
# Developers

A sample of searchable records, with a field of every kind in every sort of
container: developers, their addresses and the countries these are in.
-/

/-- The level of a developer. -/
inductive Level where
  | junior
  | senior
  deriving Repr, DecidableEq

namespace Level

/-- The name of a level. -/
def name : Level → String
  | junior => "JUNIOR"
  | senior => "SENIOR"

/-- The level with a name; everyone but seniors is a junior. -/
def ofName (name : String) : Level :=
  if name = senior.name then senior else junior

/-- The type of levels. -/
def type : FieldType :=
  .value (.enumeration "Level" [junior.name, senior.name])

/-- The value of a level. -/
def toValue (level : Level) : FieldValue :=
  .ofVariant level.name

end Level

/-- A country. -/
structure Country where
  code : String := ""
  population : Nat := 0

/-- An address. -/
structure Address where
  city : String := ""
  zip : Option Nat := none
  country : Option Country := none
  lines : List String := []

/-- A developer. -/
structure Developer where
  name : String := ""
  nick : Option String := none
  age : Nat := 0
  views : Nat := 0
  rate : Option Decimal := Decimal.ofParts? false 0 0
  ratio : Option Decimal := Decimal.ofParts? false 0 0
  remote : Bool := false
  hired : Option Timestamp := Timestamp.ofMillis? 0
  seen : Option Timestamp := none
  logins : List Timestamp := []
  stamp : Option Timestamp := Timestamp.ofMillis? 0
  level : Level := .junior
  past : Option (List Level) := none
  languages : List String := []
  /-- In the order of the texts, each of them once. -/
  tags : List String := []
  lucky : List Int := [0, 0]
  flags : List Bool := []
  address : Address := {}
  offices : List Address := []
  home : Option Address := none

/-- Insert a text into a list in order, unless it is there. -/
def insertText (text : String) : List String → List String
  | [] => [text]
  | first :: rest =>
      if text = first then
        first :: rest
      else if text < first then
        text :: first :: rest
      else
        first :: insertText text rest

/-- Texts in order, each of them once. -/
def textSet (texts : List String) : List String :=
  texts.foldr insertText []

/-- The type of single values of a kind. -/
def typeOf (kind : ValueKind) : FieldType :=
  .value (.ofKind kind)

namespace Country

/-- The fields of a country. -/
def fields : List (SearchField Country) := [
  { queryName := "isoCode", storageName := "code", declared := typeOf .text,
    container := .scalar, access := .own fun country => .ofText country.code },
  { queryName := "population", storageName := "population", declared := typeOf .integer,
    container := .scalar, access := .own fun country => .ofInt country.population }]

/-- The schema of countries. -/
def schema : EntitySchema :=
  SearchField.schemaOf "Country" fields

/-- The value at a path within a country. -/
def valueAt : Country → List String → FieldValue :=
  SearchField.valueOf fields

end Country

namespace Address

/-- The fields of an address. -/
def fields : List (SearchField Address) := [
  { queryName := "city", storageName := "city", declared := typeOf .text,
    container := .scalar, caseSensitive := some false,
    access := .own fun address => .ofText address.city },
  { queryName := "zip", storageName := "zip", declared := typeOf .integer,
    container := .scalar, access := .own fun address => .ofOption (.ofInt ·) address.zip },
  { queryName := "country", storageName := "country", declared := .entity Country.schema,
    container := .scalar,
    access := .through fun address rest => .ofOption (·.valueAt rest) address.country },
  { queryName := "lines", storageName := "lines", declared := typeOf .text,
    container := .sequence, access := .own fun address => .ofList .ofText address.lines }]

/-- The schema of addresses. -/
def schema : EntitySchema :=
  SearchField.schemaOf "Address" fields

/-- The value at a path within an address. -/
def valueAt : Address → List String → FieldValue :=
  SearchField.valueOf fields

end Address

namespace Developer

/-- The fields of a developer. -/
def fields : List (SearchField Developer) := [
  { queryName := "name", storageName := "name", declared := typeOf .text,
    container := .scalar, access := .own fun developer => .ofText developer.name },
  { queryName := "nickName", storageName := "nick", declared := typeOf .text,
    container := .scalar, caseSensitive := some true,
    access := .own fun developer => .ofOption .ofText developer.nick },
  { queryName := "age", storageName := "age", declared := typeOf .integer,
    container := .scalar, access := .own fun developer => .ofInt developer.age },
  { queryName := "views", storageName := "views", declared := typeOf .integer,
    container := .scalar, access := .own fun developer => .ofInt developer.views },
  { queryName := "rate", storageName := "rate", declared := typeOf .decimal,
    container := .scalar, access := .own fun developer => .ofOption .ofDecimal developer.rate },
  { queryName := "ratio", storageName := "ratio", declared := typeOf .decimal,
    container := .scalar, access := .own fun developer => .ofOption .ofDecimal developer.ratio },
  { queryName := "remote", storageName := "remote", declared := typeOf .boolean,
    container := .scalar, access := .own fun developer => .ofBool developer.remote },
  { queryName := "hired", storageName := "hired", declared := typeOf .temporal,
    container := .scalar, access := .own fun developer => .ofOption .ofTimestamp developer.hired },
  { queryName := "seen", storageName := "seen", declared := typeOf .temporal,
    container := .scalar, access := .own fun developer => .ofOption .ofTimestamp developer.seen },
  { queryName := "logins", storageName := "logins", declared := typeOf .temporal,
    container := .sequence, access := .own fun developer => .ofList .ofTimestamp developer.logins },
  { queryName := "stamp", storageName := "stamp", declared := typeOf .temporal,
    container := .scalar, access := .own fun developer => .ofOption .ofTimestamp developer.stamp },
  { queryName := "level", storageName := "level", declared := Level.type,
    container := .scalar, access := .own fun developer => developer.level.toValue },
  { queryName := "past", storageName := "past", declared := Level.type,
    container := .sequence,
    access := .own fun developer => .ofOption (.ofList Level.toValue) developer.past },
  { queryName := "languages", storageName := "languages", declared := typeOf .text,
    container := .sequence, access := .own fun developer => .ofList .ofText developer.languages },
  { queryName := "labels", storageName := "tags", declared := typeOf .text,
    container := .set, access := .own fun developer => .ofList .ofText developer.tags },
  { queryName := "lucky", storageName := "lucky", declared := typeOf .integer,
    container := .array, access := .own fun developer => .ofList .ofInt developer.lucky },
  { queryName := "flags", storageName := "flags", declared := typeOf .boolean,
    container := .sequence, access := .own fun developer => .ofList .ofBool developer.flags },
  { queryName := "address", storageName := "address", declared := .entity Address.schema,
    container := .scalar,
    access := .through fun developer rest => developer.address.valueAt rest },
  { queryName := "offices", storageName := "offices", declared := .entity Address.schema,
    container := .sequence,
    access := .through fun developer rest => .ofList (·.valueAt rest) developer.offices },
  { queryName := "homeAddress", storageName := "home", declared := .entity Address.schema,
    container := .scalar,
    access := .through fun developer rest => .ofOption (·.valueAt rest) developer.home }]

/-- The schema of developers. -/
def schema : EntitySchema :=
  SearchField.schemaOf "Developer" fields

/-- The value at a path within a developer. -/
def valueAt : Developer → List String → FieldValue :=
  SearchField.valueOf fields

/-- Names of fields that searches use, as constants. -/
def constants : List String :=
  ["name", "nickName", "homeAddress", "labels", "isoCode", "city"]

end Developer

instance : Searchable Country := ⟨Country.schema, Country.valueAt⟩

instance : Searchable Address := ⟨Address.schema, Address.valueAt⟩

instance : Searchable Developer := ⟨Developer.schema, Developer.valueAt⟩

end FieldSearch.Record
