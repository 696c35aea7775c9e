import FieldSearch.Decimal.Reading
import FieldSearch.Numeral
import FieldSearch.Operator

namespace FieldSearch

/-!
# Errors

The causes for which a search cannot be carried out, with their wording and
with the class of response that a service answers them with.
-/

/-- Why a token is not a value of its type. -/
inductive ConversionError where
  | integer (cause : NumeralError)
  | decimal (cause : DecimalError)
  | boolean (literal : String)
  | temporal (literal : String)
  | unknownVariant (literal typeName : String)
  deriving Repr, DecidableEq

/-- The wording of a conversion error. -/
def ConversionError.message : ConversionError → String
  | integer cause => cause.message
  | decimal cause => cause.message
  | boolean literal => s!"'{literal}' is not a boolean literal"
  | temporal literal => s!"'{literal}' is not a recognized date or date-time"
  | unknownVariant literal typeName => s!"'{literal}' is not a variant of {typeName}"

/-- The class of response that answers an error. -/
inductive Status where
  | badRequest
  | unprocessableEntity
  | internal
  deriving Repr, DecidableEq

namespace Status

/-- The display name of a status. -/
def name : Status → String
  | badRequest => "BadRequest"
  | unprocessableEntity => "UnprocessableEntity"
  | internal => "Internal"

/-- The numeric code of a status. -/
def code : Status → Nat
  | badRequest => 400
  | unprocessableEntity => 422
  | internal => 500

end Status

/-- Why a search cannot be carried out. -/
inductive SearchError where
  /-- A key names a field that its schema does not have. -/
  | fieldNotFound (field schema : String)
  /-- A value cannot be read as the declared type of its field. -/
  | badInput (field expected : String) (source : ConversionError)
  /-- A field is declared with a type that cannot be compared. -/
  | unsupportedType (field typeName : String)
  /-- A key has an empty segment. -/
  | invalidKey (key : String)
  /-- An operator is written with a token that is not known. -/
  | unknownOperator (token : String)
  /-- An operator is not defined for a kind of values. -/
  | invalidOperator (operator : Operator) (kind : String)
  /-- The value of a pattern search is not a valid pattern. -/
  | invalidPattern (pattern : String)
  /-- A configuration text cannot be read. -/
  | invalidConfig
  deriving Repr, DecidableEq

namespace SearchError

/-- The wording of an error. -/
def message : SearchError → String
  | fieldNotFound field schema => s!"field '{field}' not found on {schema}"
  | badInput field expected _ =>
      s!"could not parse input for the field {field} as a {expected}"
  | unsupportedType field typeName =>
      s!"field '{field}' has type {typeName}, which has no search strategy"
  | invalidKey key => s!"invalid search key: '{key}'"
  | unknownOperator token => s!"unknown operator: '{token}'"
  | invalidOperator operator kind =>
      s!"operator '{operator.token}' is not valid for {kind} values"
  | invalidPattern pattern => s!"invalid pattern: '{pattern}'"
  | invalidConfig => "invalid search configuration"

/-- The status that an error is answered with. -/
def status : SearchError → Status
  | fieldNotFound _ _ => .unprocessableEntity
  | badInput _ _ _ => .badRequest
  | unsupportedType _ _ => .internal
  | invalidKey _ => .badRequest
  | unknownOperator _ => .badRequest
  | invalidOperator _ _ => .badRequest
  | invalidPattern _ => .badRequest
  | invalidConfig => .internal

/-- The field that an error is about. -/
def field? : SearchError → Option String
  | fieldNotFound field _ => some field
  | badInput field _ _ => some field
  | unsupportedType field _ => some field
  | _ => none

end SearchError

end FieldSearch
