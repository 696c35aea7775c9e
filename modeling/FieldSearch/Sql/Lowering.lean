import FieldSearch.Clause
import FieldSearch.Sql.Condition
import FieldSearch.Sql.Like

namespace FieldSearch

/-!
# Clauses as SQL conditions

Every clause except a pattern search has a condition that a database can
evaluate. A clause over text that ignores letter case compares lower case
forms: the column is read in lower case and the parameters are lowered.
-/

mutual

/-- A text, or a list whose first item is one in this sense. -/
def Operand.leadsWithText : Operand → Bool
  | .scalar (.text _) => true
  | .scalar _ => false
  | .list items => Operand.leadWithText items

/-- The first operand leads with a text. -/
def Operand.leadWithText : List Operand → Bool
  | [] => false
  | first :: _ => first.leadsWithText

end

/-- A text in lower case, if asked for; other operands stay as they are. -/
def Operand.loweredIf (lowered : Bool) : Operand → Operand
  | .scalar (.text content) =>
      .ofText (if lowered then Text.lowercase content else content)
  | operand => operand

namespace Sql

/-- The comparison that an operator asks for. -/
def Comparison.ofOperator? : Operator → Option Comparison
  | .eq => some .equal
  | .ne => some .notEqual
  | .gt => some .greater
  | .gte => some .greaterOrEqual
  | .lt => some .less
  | .lte => some .lessOrEqual
  | _ => none

/-- Whether an operator asks for non-membership in a set. -/
def isNegated (operator : Operator) (kind : String) : Except SearchError Bool :=
  match operator.asMembership? with
  | some membership => .ok (membership == .notIn)
  | none => .error (.invalidOperator operator kind)

end Sql

namespace Clause

/-- The clause compares lower case forms of texts. -/
def lowersText (clause : Clause) : Bool :=
  !clause.caseSensitive && clause.value.leadsWithText

/-- The column that holds the field of a clause. -/
def column (clause : Clause) : Sql.Column :=
  { parts := clause.path.parts, lowered := clause.lowersText }

/-- A test for membership in a set; in the empty set there is nothing. -/
def membershipCondition
    (clause : Clause)
    (test : Sql.Column → Bool → List Operand → Sql.Condition)
    (negated : Bool)
    (members : List Operand) :
    Sql.Condition :=
  if members.isEmpty then
    .constant negated
  else
    test clause.column negated (members.map (Operand.loweredIf clause.lowersText))

/-- The LIKE pattern of a clause over texts. -/
def likePattern (clause : Clause) (placement : Sql.Like.Placement) : String :=
  let literal := clause.value.asText?.getD ""
  let pattern := String.ofList (Sql.Like.pattern placement literal.toList)
  if clause.lowersText then Text.lowercase pattern else pattern

/-- The condition of a clause over a single value. -/
def scalarCondition (clause : Clause) : Except SearchError Sql.Condition :=
  let operator := clause.operator.normalize
  match Sql.Comparison.ofOperator? operator, Sql.Like.Placement.ofOperator? operator with
  | some comparison, _ =>
      .ok (.compare clause.column comparison (clause.value.loweredIf clause.lowersText))
  | none, some placement => .ok (.like clause.column (clause.likePattern placement))
  | none, none => .error (.invalidOperator operator "SQL")

/-- The condition of a clause. -/
def toSql (clause : Clause) : Except SearchError Sql.Condition :=
  let operator := clause.operator.normalize
  match clause.shape, clause.value with
  | .collection, value => do
      let negated ← Sql.isNegated operator "Collection"
      return clause.membershipCondition .element negated value.items
  | .scalar, .list members => do
      let negated ← Sql.isNegated operator "SQL membership"
      return clause.membershipCondition .member negated members
  | .scalar, .scalar _ => clause.scalarCondition

/-- The condition of a clause as SQL text with parameters. -/
def toFragment (clause : Clause) : Except SearchError Sql.Fragment :=
  clause.toSql.map (·.toFragment)

end Clause

end FieldSearch
