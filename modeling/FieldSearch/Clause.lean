import FieldSearch.Path
import FieldSearch.Pattern
import FieldSearch.Value

namespace FieldSearch

/-!
# Clauses

A clause is a compiled criterion: it says of a field, given by its path, how
its value has to relate to an operand. `Clause.accepts` decides the relation in
memory. A missing value satisfies no clause, and scalars of different families
stand in no relation at all.
-/

/-- The relation of two texts, compared character by character. -/
def Operator.holdsOfTexts (operator : Operator) (content argument : String) : Bool :=
  match operator.normalize with
  | .startsWith => decide (argument.toList <+: content.toList)
  | .endsWith => decide (argument.toList <:+ content.toList)
  | .contains =>
      @decide (argument.toList <:+: content.toList)
        (List.instDecidableIsInfixOfDecidableEq argument.toList content.toList)
  | _ => operator.admits (compare content argument)

/-- The relation of two values of which only equality is known. -/
def Operator.holdsOfEquality (operator : Operator) (equal : Bool) : Bool :=
  match operator.normalize with
  | .eq => equal
  | .ne => !equal
  | _ => false

/-- A compiled criterion. -/
structure Clause where
  path : FieldPath
  operator : Operator
  value : Operand
  caseSensitive : Bool := true
  shape : FieldShape := .scalar
  /-- The compiled pattern of a pattern search. -/
  pattern : Option Pattern := none

namespace Clause

/-- The relation of a held text to a text of the operand. -/
def holdsOfTexts
    (clause : Clause)
    (operator : Operator)
    (content argument : String) :
    Bool :=
  if operator = .regex then
    clause.pattern.any (·.isMatch content)
  else if clause.caseSensitive then
    operator.holdsOfTexts content argument
  else
    operator.holdsOfTexts (Text.lowercase content) (Text.lowercase argument)

/-- The relation of a held scalar to a scalar of the operand. -/
def holdsOfScalars
    (clause : Clause)
    (operator : Operator) :
    Scalar →
    Scalar →
    Bool
  | .text content, .text argument => clause.holdsOfTexts operator content argument
  | .integer held, .integer given => operator.admits (compare held.toInt given.toInt)
  | .integer held, .decimal given => operator.admits (Decimal.compareInt held.toInt given)
  | .decimal held, .integer given =>
      operator.admits (Decimal.compareInt given.toInt held).swap
  | .decimal held, .decimal given => operator.admits (held.compare given)
  | .temporal held, .temporal given => operator.admits (held.compare given)
  | .boolean held, .boolean given => operator.holdsOfEquality (held == given)
  | .variant held, .variant given => operator.holdsOfEquality (held == given)
  | _, _ => false

/-- The relation of a held value to an item of the operand; lists stand in none. -/
def holdsOfItems
    (clause : Clause)
    (operator : Operator) :
    FieldValue →
    Operand →
    Bool
  | .scalar held, .scalar given => clause.holdsOfScalars operator held given
  | _, _ => false

/-- Some held value stands in a relation to some item of the operand. -/
def holdsOfAny
    (clause : Clause)
    (operator : Operator)
    (held : List FieldValue)
    (given : List Operand) :
    Bool :=
  held.any fun item => given.any fun candidate => clause.holdsOfItems operator item candidate

/-- A clause holds of the values of a collection. -/
def acceptsCollection (clause : Clause) (held : List FieldValue) : Bool :=
  let given := clause.value.items
  match clause.operator.normalize with
  | .eq | .isIn => clause.holdsOfAny .eq held given
  | .ne | .notIn => !clause.holdsOfAny .eq held given
  | operator => clause.holdsOfAny operator held given

/-- A clause over a list of candidates holds of a single value. -/
def acceptsMember (clause : Clause) (held : FieldValue) (given : List Operand) : Bool :=
  match clause.operator.asMembership? with
  | some .isIn => clause.holdsOfAny .eq [held] given
  | some .notIn => !clause.holdsOfAny .eq [held] given
  | _ => false

/-- A clause holds of the value of its field. -/
def accepts (clause : Clause) : FieldValue → Bool
  | .missing => false
  | .list held => clause.acceptsCollection held
  | .scalar held =>
      match clause.value with
      | .list given => clause.acceptsMember (.scalar held) given
      | .scalar given => clause.holdsOfScalars clause.operator held given

/-- The patterns of two clauses are written alike. -/
def samePattern (left right : Clause) : Bool :=
  left.pattern.map (·.source) == right.pattern.map (·.source)

/-- Equality of clauses: decimals by value and patterns by their text. -/
def same (left right : Clause) : Bool :=
  left.path == right.path &&
    left.operator == right.operator &&
    left.value.same right.value &&
    left.caseSensitive == right.caseSensitive &&
    left.shape == right.shape &&
    left.samePattern right

end Clause

end FieldSearch
