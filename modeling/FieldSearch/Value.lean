import FieldSearch.Decimal.Basic
import FieldSearch.Timestamp.Basic

namespace FieldSearch

/-!
# Values

Two kinds of values meet in a search. An `Operand` is the typed value of a
criterion: a scalar or a list. A `FieldValue` is what a record holds for a
field, where the value may also be missing. Both are built from `Scalar`s,
which are comparable with each other only within a family: text with text,
integers and decimals, points in time, enumeration variants, truth values.
-/

/-- A value that is not a list. -/
inductive Scalar where
  | text (content : String)
  | integer (number : Int64)
  | decimal (number : Decimal)
  | boolean (truth : Bool)
  | temporal (point : Timestamp)
  | variant (name : String)
  deriving Repr, DecidableEq

/-- The typed value of a criterion. -/
inductive Operand where
  | scalar (value : Scalar)
  | list (items : List Operand)
  deriving Repr

/-- The value that a record holds for a field. -/
inductive FieldValue where
  | missing
  | scalar (value : Scalar)
  | list (items : List FieldValue)
  deriving Repr

namespace Scalar

/-- The text of a truth value. -/
def truthText (truth : Bool) : String :=
  if truth then "true" else "false"

/-- The written form of a scalar. -/
def toText : Scalar → String
  | text content => content
  | integer number => String.ofList (Numeral.intChars number.toInt)
  | decimal number => toString number
  | boolean truth => truthText truth
  | temporal point => toString point
  | variant name => name

/-- Equality of scalars of one type, decimals by value. -/
def same : Scalar → Scalar → Bool
  | text left, text right => left == right
  | integer left, integer right => left == right
  | decimal left, decimal right => left.sameValue right
  | boolean left, boolean right => left == right
  | temporal left, temporal right => left == right
  | variant left, variant right => left == right
  | _, _ => false

/-- The content of a text scalar. -/
def asText? : Scalar → Option String
  | text content => some content
  | _ => none

end Scalar

namespace Operand

/-- A text operand. -/
def ofText (content : String) : Operand :=
  scalar (.text content)

/-- The operand is a list. -/
def isList : Operand → Bool
  | list _ => true
  | scalar _ => false

/-- The items of a list. -/
def asList? : Operand → Option (List Operand)
  | list items => some items
  | scalar _ => none

/-- The content of a text scalar. -/
def asText? : Operand → Option String
  | scalar value => value.asText?
  | list _ => none

/-- A list stays as it is; a scalar becomes the list of itself. -/
def intoList : Operand → Operand
  | list items => list items
  | scalar value => list [scalar value]

/-- The items of a list, or a scalar as the only item. -/
def items : Operand → List Operand
  | list items => items
  | scalar value => [scalar value]

mutual

/-- The written form of an operand: lists in brackets. -/
def toText : Operand → String
  | scalar value => value.toText
  | list items => "[" ++ joinTexts items ++ "]"

/-- The written forms of operands, joined by commas. -/
def joinTexts : List Operand → String
  | [] => ""
  | [item] => toText item
  | item :: rest => toText item ++ ", " ++ joinTexts rest

end

mutual

/-- Equality of operands, decimals by value and lists item by item. -/
def same : Operand → Operand → Bool
  | scalar left, scalar right => left.same right
  | list left, list right => sameItems left right
  | _, _ => false

/-- Equality of lists of operands, item by item. -/
def sameItems : List Operand → List Operand → Bool
  | [], [] => true
  | left :: lefts, right :: rights => same left right && sameItems lefts rights
  | _, _ => false

end

end Operand

namespace FieldValue

mutual

/-- An operand as a field value. -/
def ofOperand : Operand → FieldValue
  | .scalar value => scalar value
  | .list items => list (ofOperands items)

/-- Operands as field values. -/
def ofOperands : List Operand → List FieldValue
  | [] => []
  | item :: rest => ofOperand item :: ofOperands rest

end

/-- The value is missing. -/
def isMissing : FieldValue → Bool
  | missing => true
  | _ => false

/-- The value is a list. -/
def isList : FieldValue → Bool
  | list _ => true
  | _ => false

/-- The content of a text scalar. -/
def asText? : FieldValue → Option String
  | scalar value => value.asText?
  | _ => none

end FieldValue

end FieldSearch
