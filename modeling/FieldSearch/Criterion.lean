import FieldSearch.Error
import FieldSearch.Key

namespace FieldSearch

/-!
# Search criteria

A criterion asks for the records in which a field stands in a relation to a
value: a key, an operator and the value as the user wrote it.
-/

/-- A value as the user wrote it. -/
inductive RawValue where
  | single (token : String)
  | list (tokens : List String)
  deriving Repr, DecidableEq

namespace RawValue

/-- The value is a list. -/
def isList : RawValue → Bool
  | single _ => false
  | list _ => true

/-- The written form; the tokens of a list are joined by commas. -/
def toText : RawValue → String
  | single token => token
  | list tokens => ",".intercalate tokens

end RawValue

/-- A search criterion. -/
structure Criterion where
  key : String
  operator : Operator
  value : RawValue
  deriving Repr, DecidableEq

namespace Criterion

/-- A criterion for a well-formed key. -/
def make
    (key : String)
    (operator : Operator)
    (value : RawValue) :
    Except SearchError Criterion :=
  if Key.wellFormed key then
    .ok { key := key, operator := operator, value := value }
  else
    .error (.invalidKey key)

/-- A criterion whose operator is given by a token, which is read first. -/
def parse
    (key token : String)
    (value : RawValue) :
    Except SearchError Criterion :=
  match Operator.ofToken? token with
  | some operator => make key operator value
  | none => .error (.unknownOperator token)

/-- The segments of the key. -/
def segments (criterion : Criterion) : List String :=
  Key.segments criterion.key

/-- The segments of the key before the last one. -/
def enclosing (criterion : Criterion) : List String :=
  Key.enclosing criterion.key

/-- The last segment of the key: what follows its last dot. -/
def terminal (criterion : Criterion) : String :=
  match splitLast? '.' criterion.key.toList with
  | some (_, last) => String.ofList last
  | none => criterion.key

/-- The written form: key, operator and value, separated by colons. -/
def toText (criterion : Criterion) : String :=
  s!"{criterion.key}:{criterion.operator.token}:{criterion.value.toText}"

end Criterion

end FieldSearch
