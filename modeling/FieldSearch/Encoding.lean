import FieldSearch.Criterion
import FieldSearch.Decimal.Reading
import FieldSearch.Json.Reading
import FieldSearch.Json.Real
import FieldSearch.Json.Writing
import FieldSearch.Value

namespace FieldSearch

/-!
# Values as JSON

An operand or a field value is encoded as an object that names its kind and
holds its content. Decimals are encoded as text, which keeps their scale. A raw
value needs no kind: a string is a single token and an array is a list. Either is
written as JSON text and read from it, where the depth of nesting is bounded.
-/

/-- The object that names a kind and holds a content. -/
def Json.tagged (kind : String) (content : Json) : Json :=
  .object [("kind", .string kind), ("value", content)]

namespace Scalar

/-- The name of the kind of a scalar. -/
def kindName : Scalar → String
  | text _ => "text"
  | integer _ => "integer"
  | decimal _ => "decimal"
  | boolean _ => "boolean"
  | temporal _ => "temporal"
  | variant _ => "enum"

/-- The encoded content of a scalar. -/
def content : Scalar → Json
  | text content => .string content
  | integer number => .integer number.toInt
  | decimal number => .string (toString number)
  | boolean truth => .boolean truth
  | temporal point => .integer point.millis.toInt
  | variant name => .string name

/-- The encoded form of a scalar. -/
def toJson (scalar : Scalar) : Json :=
  .tagged scalar.kindName scalar.content

/-- The integers that a number holds exactly, from signed to unsigned 64 bits. -/
def isExactInteger (number : Int) : Bool :=
  -Int.pow 2 63 ≤ number && number < Int.pow 2 64

/-- The decimal that a number given by its numeral as a double stands for. -/
def decimalOfReal? (numeral : List Char) : Option Decimal :=
  Json.doubleChars? numeral >>= fun characters => (Decimal.readPlain characters).toOption

/-- The decimal that a content stands for: as text, or as a number. -/
def decimalOf? : Json → Option Decimal
  | .string written => Decimal.ofString? written
  | .integer number =>
      if isExactInteger number then
        (Decimal.readPlain (Numeral.intChars number)).toOption
      else
        decimalOfReal? (Numeral.intChars number)
  | .real numeral => decimalOfReal? numeral.toList
  | _ => none

/-- The scalar of a named kind that has the given content. -/
def ofContent? : String → Json → Option Scalar
  | "text", .string content => some (text content)
  | "integer", .integer number => (Numeral.int64? number).map integer
  | "decimal", content => (decimalOf? content).map decimal
  | "boolean", .boolean truth => some (boolean truth)
  | "temporal", .integer millis => (Timestamp.ofMillis? millis).map temporal
  | "enum", .string name => some (variant name)
  | _, _ => none

end Scalar

/-- The name of the kind of a list. -/
def listKind : String := "list"

/-- The name of the kind of a missing value. -/
def missingKind : String := "none"

namespace Operand

mutual

/-- The encoded form of an operand. -/
def toJson : Operand → Json
  | scalar value => value.toJson
  | list items => .tagged listKind (.array (itemsToJson items))

/-- The encoded forms of operands. -/
def itemsToJson : List Operand → List Json
  | [] => []
  | item :: rest => toJson item :: itemsToJson rest

end

mutual

/-- The operand with an encoded form: an object, or the pair of kind and content. -/
def ofJson? : Json → Option Operand
  | .object members =>
      match Json.memberOf? "kind" members with
      | some (.string kind) =>
          if kind = listKind then
            (listOf? members).map list
          else
            (Json.memberOf? "value" members >>= Scalar.ofContent? kind).map scalar
      | _ => none
  | .array [.string kind, .array items] =>
      if kind = listKind then (ofItems? items).map list else none
  | .array [.string kind, content] => (Scalar.ofContent? kind content).map scalar
  | _ => none

/-- The items that the content of an object encodes. -/
def listOf? : List (String × Json) → Option (List Operand)
  | [] => none
  | (name, value) :: rest =>
      if name = "value" then
        match value with
        | .array items => ofItems? items
        | _ => none
      else
        listOf? rest

/-- The operands with the given encoded forms. -/
def ofItems? : List Json → Option (List Operand)
  | [] => some []
  | item :: rest => do
      let operand ← ofJson? item
      let operands ← ofItems? rest
      return operand :: operands

end

end Operand

namespace FieldValue

mutual

/-- The encoded form of a field value. -/
def toJson : FieldValue → Json
  | missing => .object [("kind", .string missingKind)]
  | scalar value => value.toJson
  | list items => .tagged listKind (.array (itemsToJson items))

/-- The encoded forms of field values. -/
def itemsToJson : List FieldValue → List Json
  | [] => []
  | item :: rest => toJson item :: itemsToJson rest

end

mutual

/-- The field value with an encoded form: an object, or the pair that encodes an operand. -/
def ofJson? : Json → Option FieldValue
  | .object members =>
      match Json.memberOf? "kind" members with
      | some (.string kind) =>
          if kind = missingKind then
            some missing
          else if kind = listKind then
            (listOf? members).map list
          else
            (Json.memberOf? "value" members >>= Scalar.ofContent? kind).map scalar
      | _ => none
  | .array pair => (Operand.ofJson? (.array pair)).map ofOperand
  | _ => none

/-- The items that the content of an object encodes. -/
def listOf? : List (String × Json) → Option (List FieldValue)
  | [] => none
  | (name, value) :: rest =>
      if name = "value" then
        match value with
        | .array items => ofItems? items
        | _ => none
      else
        listOf? rest

/-- The field values with the given encoded forms. -/
def ofItems? : List Json → Option (List FieldValue)
  | [] => some []
  | item :: rest => do
      let value ← ofJson? item
      let values ← ofItems? rest
      return value :: values

end

end FieldValue

namespace RawValue

/-- The encoded form of a raw value. -/
def toJson : RawValue → Json
  | single token => .string token
  | list tokens => .array (tokens.map .string)

/-- The raw value with an encoded form. -/
def ofJson? : Json → Option RawValue
  | .string token => some (single token)
  | json => json.texts?.map list

end RawValue

end FieldSearch
