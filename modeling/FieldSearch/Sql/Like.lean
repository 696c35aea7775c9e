import FieldSearch.Operator

namespace FieldSearch.Sql

/-!
# LIKE patterns

In a LIKE pattern `%` stands for any characters and `_` for any single one; a
backslash takes the special meaning from the character after it. A literal text
is therefore written with a backslash before each special character.
-/

namespace Like

/-- The character that takes the special meaning from the next one. -/
def escapeMark : Char := '\\'

/-- The character that stands for any number of characters. -/
def anyMark : Char := '%'

/-- The character that stands for any single character. -/
def oneMark : Char := '_'

/-- Characters with a special meaning in a pattern. -/
def isSpecial (character : Char) : Bool :=
  character == escapeMark || character == anyMark || character == oneMark

/-- The pattern of one literal character. -/
def escapeChar (character : Char) : List Char :=
  if isSpecial character then [escapeMark, character] else [character]

/-- The pattern of a literal text. -/
def escape (literal : List Char) : List Char :=
  literal.flatMap escapeChar

/-- Whether a text may be preceded and followed by other characters. -/
structure Placement where
  afterAny : Bool
  beforeAny : Bool
  deriving Repr, DecidableEq

/-- Where a text operator looks for its text. -/
def Placement.ofOperator? : Operator → Option Placement
  | .startsWith => some { afterAny := false, beforeAny := true }
  | .endsWith => some { afterAny := true, beforeAny := false }
  | .contains => some { afterAny := true, beforeAny := true }
  | _ => none

/-- The wildcard for any characters, if there may be any. -/
def wildcard (wanted : Bool) : List Char :=
  if wanted then [anyMark] else []

/-- The pattern of the texts that hold a literal at a placement. -/
def pattern (placement : Placement) (literal : List Char) : List Char :=
  wildcard placement.afterAny ++ escape literal ++ wildcard placement.beforeAny

end Like

end FieldSearch.Sql
