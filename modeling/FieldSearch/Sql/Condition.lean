import FieldSearch.Value

namespace FieldSearch.Sql

/-!
# SQL conditions

The conditions that clauses become, as trees. `Condition.toFragment` writes a
condition with a question mark for every parameter, and lists the parameters in
the order of their marks. Names are quoted, so no name can end its own
quotation.
-/

/-- A comparison of a column with a parameter. -/
inductive Comparison where
  | equal
  | notEqual
  | greater
  | greaterOrEqual
  | less
  | lessOrEqual
  deriving Repr, DecidableEq

/-- The symbol of a comparison. -/
def Comparison.symbol : Comparison → List Char
  | equal => ['=']
  | notEqual => ['<', '>']
  | greater => ['>']
  | greaterOrEqual => ['>', '=']
  | less => ['<']
  | lessOrEqual => ['<', '=']

/-- A named column or relation, possibly read in lower case. -/
structure Column where
  parts : List String
  lowered : Bool
  deriving Repr, DecidableEq

/-- A condition on the value of one field. -/
inductive Condition where
  /-- Always true or always false. -/
  | constant (truth : Bool)
  /-- The column compares with the parameter. -/
  | compare (column : Column) (comparison : Comparison) (parameter : Operand)
  /-- The column has the form of the pattern. -/
  | like (column : Column) (pattern : String)
  /-- The column is among the parameters, or is not. -/
  | member (column : Column) (negated : Bool) (members : List Operand)
  /-- A row of the relation is among the parameters, or none is. -/
  | element (relation : Column) (negated : Bool) (members : List Operand)
  deriving Repr

/-- A SQL text with the values for its marks, in the order of the marks. -/
structure Fragment where
  text : String
  parameters : List Operand
  deriving Repr

/-- A quotation mark inside a name is written twice. -/
def quotedChar (character : Char) : List Char :=
  if character = '"' then ['"', '"'] else [character]

/-- A name in quotation marks. -/
def quoted (name : String) : List Char :=
  '"' :: name.toList.flatMap quotedChar ++ ['"']

/-- The qualified name of a column. -/
def qualified (parts : List String) : List Char :=
  ['.'].intercalate (parts.map quoted)

/-- An expression, possibly in lower case. -/
def loweredIf (lowered : Bool) (expression : List Char) : List Char :=
  if lowered then "LOWER(".toList ++ expression ++ [')'] else expression

/-- The expression of a column. -/
def Column.toChars (column : Column) : List Char :=
  loweredIf column.lowered (qualified column.parts)

/-- Marks for a number of parameters, in brackets. -/
def markList (count : Nat) : List Char :=
  '(' :: [',', ' '].intercalate (List.replicate count ['?']) ++ [')']

/-- The keyword of a membership test. -/
def membershipKeyword (negated : Bool) : List Char :=
  if negated then " NOT IN ".toList else " IN ".toList

/-- The keyword of a test for rows. -/
def existenceKeyword (negated : Bool) : List Char :=
  if negated then "NOT EXISTS ".toList else "EXISTS ".toList

/-- The column of a relation of elements that holds the element. -/
def elementColumn : String := "value"

namespace Condition

/-- The written form of a condition. -/
def toChars : Condition → List Char
  | constant truth => if truth then "1 = 1".toList else "1 = 0".toList
  | compare column comparison _ =>
      column.toChars ++ ' ' :: comparison.symbol ++ [' ', '?']
  | like column _ => column.toChars ++ " LIKE ? ESCAPE '\\'".toList
  | member column negated members =>
      column.toChars ++ membershipKeyword negated ++ markList members.length
  | element relation negated members =>
      existenceKeyword negated ++ "(SELECT 1 FROM ".toList ++ qualified relation.parts ++
        " WHERE ".toList ++ loweredIf relation.lowered (quoted elementColumn) ++
        " IN ".toList ++ markList members.length ++ [')']

/-- The written form of a condition. -/
def toText (condition : Condition) : String :=
  String.ofList condition.toChars

/-- The parameters of a condition, in the order of their marks. -/
def parameters : Condition → List Operand
  | constant _ => []
  | compare _ _ parameter => [parameter]
  | like _ pattern => [Operand.ofText pattern]
  | member _ _ members => members
  | element _ _ members => members

/-- The written form of a condition, with its parameters. -/
def toFragment (condition : Condition) : Fragment where
  text := condition.toText
  parameters := condition.parameters

end Condition

end FieldSearch.Sql
