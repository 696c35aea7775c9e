import FieldSearch.Text.Case

namespace FieldSearch

/-!
# Operators

The operators of a search criterion: the tokens they are written with, the
tables of operators that each kind of value admits, and the two reductions
that evaluation relies on. Aliases reduce to the operator they stand for
(`Operator.normalize`), and equality tests have a form over sets
(`Operator.asMembership`).
-/

/-- The operator of a search criterion. -/
inductive Operator where
  | eq
  | ne
  | startsWith
  | endsWith
  | contains
  | regex
  | gt
  | gte
  | lt
  | lte
  | before
  | after
  | isIn
  | notIn
  | is
  deriving Repr, DecidableEq

namespace Operator

/-- Every operator, in declaration order. -/
def all : List Operator :=
  [.eq, .ne, .startsWith, .endsWith, .contains, .regex, .gt, .gte, .lt, .lte,
    .before, .after, .isIn, .notIn, .is]

/-- The canonical token of an operator. -/
def token : Operator → String
  | eq => "eq"
  | ne => "ne"
  | startsWith => "startswith"
  | endsWith => "endswith"
  | contains => "contains"
  | regex => "regex"
  | gt => "gt"
  | gte => "gte"
  | lt => "lt"
  | lte => "lte"
  | before => "before"
  | after => "after"
  | isIn => "in"
  | notIn => "notin"
  | is => "is"

instance : ToString Operator where
  toString := token

/-- Every token an operator may be written with, the canonical one first. -/
def tokens : Operator → List String
  | eq => ["eq", ":", "=", "=="]
  | ne => ["ne", "!", "!=", "<>"]
  | startsWith => ["startswith", "starts_with"]
  | endsWith => ["endswith", "ends_with"]
  | contains => ["contains", "like"]
  | regex => ["regex", "~"]
  | gt => ["gt", ">"]
  | gte => ["gte", "ge", ">=", ">:"]
  | lt => ["lt", "<"]
  | lte => ["lte", "le", "<=", "<:"]
  | before => ["before"]
  | after => ["after"]
  | isIn => ["in"]
  | notIn => ["notin", "not_in", "nin"]
  | is => ["is"]

/-- The operator written as `written`; ASCII letters count in either case. -/
def ofToken? (written : String) : Option Operator :=
  let lowered := Text.asciiLowercase written
  all.find? fun operator => operator.tokens.contains lowered

/-- Operators that text values admit. -/
def isText : Operator → Bool
  | eq | ne | startsWith | endsWith | contains | regex | isIn | notIn => true
  | _ => false

/-- Operators that integer and decimal values admit. -/
def isNumeric : Operator → Bool
  | eq | ne | gt | gte | lt | lte | isIn | notIn => true
  | _ => false

/-- Operators that points in time admit. -/
def isTemporal : Operator → Bool
  | before | after => true
  | operator => operator.isNumeric

/-- Operators that enumeration variants admit. -/
def isEnumeration : Operator → Bool
  | eq | ne | isIn | notIn => true
  | _ => false

/-- Operators that truth values admit. -/
def isBoolean : Operator → Bool
  | eq | ne | is => true
  | _ => false

/-- Operators that test membership in a set of values. -/
def isMembership : Operator → Bool
  | eq | ne | is | isIn | notIn => true
  | _ => false

/-- The operator that an alias stands for; others stand for themselves. -/
def normalize : Operator → Operator
  | before => lt
  | after => gt
  | is => eq
  | operator => operator

/-- The test for membership in a set that an equality test amounts to. -/
def asMembership? (operator : Operator) : Option Operator :=
  match operator.normalize with
  | eq | isIn => some isIn
  | ne | notIn => some notIn
  | _ => none

/-- Whether a comparison with the given outcome satisfies the operator. -/
def admits (operator : Operator) (outcome : Ordering) : Bool :=
  match operator.normalize with
  | eq => outcome == .eq
  | ne => outcome != .eq
  | gt => outcome == .gt
  | gte => outcome != .lt
  | lt => outcome == .lt
  | lte => outcome != .gt
  | _ => false

end Operator

end FieldSearch
