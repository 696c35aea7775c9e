import FieldSearch.Decimal.Reading
import FieldSearch.Strategy.Basic
import FieldSearch.Text.Blank
import FieldSearch.Timestamp.Reading

namespace FieldSearch.Strategy

/-!
# Strategies for single values

One strategy for each kind of value, and for text one for either treatment of
letter case. Each admits the operators of its kind. A set operator, or a list
of candidates, makes a membership test instead of a comparison.
-/

/-- The clause of an operator that a kind of value admits. -/
def scalarClause
    (kind : String)
    (admitted : Operator → Bool)
    (target : FieldPath)
    (operator : Operator)
    (value : Operand) :
    Except SearchError Clause :=
  if operator == .isIn || operator == .notIn || value.isList then
    match operator.asMembership? with
    | some membership =>
        if admitted membership then
          .ok { path := target, operator := membership, value := value.intoList }
        else
          .error (.invalidOperator operator kind)
    | none => .error (.invalidOperator operator kind)
  else if admitted operator then
    .ok { path := target, operator := operator, value := value }
  else
    .error (.invalidOperator operator kind)

/-- The clause of a pattern search. -/
def patternClause
    (caseSensitive : Bool)
    (target : FieldPath)
    (value : Operand) :
    Except SearchError Clause :=
  if value.isList then
    .error (.invalidOperator .regex ValueKind.text.name)
  else
    let source := value.asText?.getD ""
    match Pattern.compile? source (!caseSensitive) with
    | some pattern =>
        .ok {
          path := target
          operator := .regex
          value := value
          caseSensitive := caseSensitive
          pattern := some pattern
        }
    | none => .error (.invalidPattern source)

/-- The clause of a text search. -/
def textClause
    (caseSensitive : Bool)
    (target : FieldPath)
    (operator : Operator)
    (value : Operand) :
    Except SearchError Clause :=
  if operator = .regex then
    patternClause caseSensitive target value
  else
    (scalarClause ValueKind.text.name Operator.isText target operator value).map
      fun clause => { clause with caseSensitive := caseSensitive }

/-- Text, taken as it is written. -/
def text (caseSensitive : Bool) : Strategy :=
  elementwise
    (if caseSensitive then "text" else "text-insensitive")
    (fun _ token => .ok (.ofText token))
    (textClause caseSensitive)

/-- Integers of 64 bits. -/
def integer : Strategy :=
  elementwise
    "integer"
    (fun _ token =>
      match Numeral.readInt64 token with
      | .ok number => .ok (.scalar (.integer number))
      | .error cause => .error (.integer cause))
    (scalarClause ValueKind.integer.name Operator.isNumeric)

/--
The decimal written as `token`. Scientific notation is tried where plain notation fails
and the token has the mark of an exponent; where both fail, the error is the first one.
-/
def readDecimal (token : String) : Except DecimalError Decimal :=
  let characters := token.toList
  match Decimal.readPlain characters with
  | .ok number => .ok number
  | .error cause =>
      if characters.any Decimal.isExponentMark then
        match Decimal.readScientific? characters with
        | some number => .ok number
        | none => .error cause
      else
        .error cause

/-- Decimal numbers, in plain or in scientific notation. -/
def decimal : Strategy :=
  elementwise
    "decimal"
    (fun _ token =>
      match readDecimal token with
      | .ok number => .ok (.scalar (.decimal number))
      | .error cause => .error (.decimal cause))
    (scalarClause ValueKind.decimal.name Operator.isNumeric)

/-- The truth value written as `token`; ASCII letters count in either case. -/
def readTruth? (token : String) : Option Bool :=
  let lowered := Text.asciiLowercase token
  if ["true", "yes", "1"].contains lowered then
    some true
  else if ["false", "no", "0"].contains lowered then
    some false
  else
    none

/-- Truth values. -/
def boolean : Strategy :=
  elementwise
    "boolean"
    (fun _ token =>
      match readTruth? token with
      | some truth => .ok (.scalar (.boolean truth))
      | none => .error (.boolean token))
    (scalarClause ValueKind.boolean.name
      fun operator => operator.isBoolean || operator.isMembership)

/-- Points in time. -/
def temporal : Strategy :=
  elementwise
    "temporal"
    (fun _ token =>
      match Timestamp.ofString? token with
      | some point => .ok (.scalar (.temporal point))
      | none => .error (.temporal token))
    (scalarClause ValueKind.temporal.name Operator.isTemporal)

/-- Variants of an enumeration, named exactly. -/
def enumeration : Strategy :=
  elementwise
    "enumeration"
    (fun type token =>
      if type.variants.contains token then
        .ok (.scalar (.variant token))
      else
        .error (.unknownVariant token type.name))
    (scalarClause ValueKind.enumeration.name Operator.isEnumeration)

/-- The clause of any operator and value, without a check. -/
def uncheckedClause
    (target : FieldPath)
    (operator : Operator)
    (value : Operand) :
    Except SearchError Clause :=
  .ok { path := target, operator := operator, value := value }

/-- Text without the blank characters at its ends, under any operator. -/
def trimmed : Strategy :=
  elementwise "trimmed" (fun _ token => .ok (.ofText (Text.trim token))) uncheckedClause

/-- Text in upper case, under any operator. -/
def upper : Strategy :=
  elementwise "upper" (fun _ token => .ok (.ofText (Text.uppercase token))) uncheckedClause

end FieldSearch.Strategy
