import FieldSearch.Proofs.Clause.Numbers
import FieldSearch.Proofs.Sql.Like
import FieldSearch.Sql.Condition

namespace FieldSearch

/-!
# The meaning of SQL conditions

Conditions are evaluated in the three-valued logic of SQL. A comparison with
null is unknown, membership in a list is a disjunction of equalities, and a
search for rows is true or false: rows of which the test is unknown do not
count. Texts are compared character by character, numbers as rational numbers.
-/

/-- The order of two data of one sort; data of different sorts are in no order. -/
def Scalar.order? : Scalar → Scalar → Option Ordering
  | text left, text right => some (compare left right)
  | variant left, variant right => some (compare left right)
  | boolean left, boolean right => some (compare left right)
  | temporal left, temporal right => some (compare left.millis.toInt right.millis.toInt)
  | left, right =>
      match left.toRat?, right.toRat? with
      | some left, some right => some (compare left right)
      | _, _ => none

namespace Sql

/-- A truth value of SQL. -/
inductive Truth where
  | holds
  | fails
  | unknown
  deriving Repr, DecidableEq

namespace Truth

/-- The truth value of something that is decided. -/
def ofBool (truth : Bool) : Truth :=
  if truth then holds else fails

/-- Negation, if asked for. -/
def negatedIf (negated : Bool) (truth : Truth) : Truth :=
  match negated, truth with
  | true, holds => fails
  | true, fails => holds
  | _, truth => truth

/-- Disjunction. -/
def or : Truth → Truth → Truth
  | holds, _ => holds
  | _, holds => holds
  | fails, fails => fails
  | _, _ => unknown

/-- Disjunction of any number of truth values. -/
def any (truths : List Truth) : Truth :=
  truths.foldr or fails

@[simp] theorem ofBool_eq_holds_iff (truth : Bool) :
    ofBool truth = holds ↔ truth = true := by
  cases truth <;> decide

@[simp] theorem negatedIf_ofBool (negated truth : Bool) :
    (ofBool truth).negatedIf negated = ofBool (negated != truth) := by
  cases negated <;> cases truth <;> rfl

/-- A disjunction of decided truth values is decided. -/
theorem any_map_ofBool
    (decide : α → Bool)
    (items : List α) :
    any (items.map fun item => ofBool (decide item)) = ofBool (items.any decide) := by
  induction items with
  | nil =>
      rfl
  | cons item items inductionHypothesis =>
      rw [any] at inductionHypothesis
      rw [any, List.map_cons, List.foldr_cons, inductionHypothesis, List.any_cons]
      cases decide item <;> cases items.any decide <;> rfl

/-- A disjunction of unknown truth values is unknown, if there are any. -/
theorem any_unknown
    {truths : List Truth}
    (nonempty : truths ≠ [])
    (undecided : ∀ truth ∈ truths, truth = unknown) :
    any truths = unknown := by
  induction truths with
  | nil =>
      exact absurd rfl nonempty
  | cons truth truths inductionHypothesis =>
      rw [List.forall_mem_cons] at undecided
      rw [any, List.foldr_cons, undecided.1]
      by_cases last : truths = []
      · rw [last]
        rfl
      · have others := inductionHypothesis last undecided.2
        rw [any] at others
        rw [others]
        rfl

end Truth

/-- A comparison holds of data in a given order. -/
def Comparison.test : Comparison → Ordering → Bool
  | equal, order => order == .eq
  | notEqual, order => order != .eq
  | greater, order => order == .gt
  | greaterOrEqual, order => order != .lt
  | less, order => order == .lt
  | lessOrEqual, order => order != .gt

/-- What a database holds: a datum or null in each column and in each row of a relation. -/
structure Store where
  column : List String → Option Scalar
  relation : List String → List (Option Scalar)

/-- The comparison of two data, each of which may be null. -/
def compareData
    (comparison : Comparison)
    (left right : Option Scalar) :
    Truth :=
  match left, right with
  | some left, some right =>
      match left.order? right with
      | some order => .ofBool (comparison.test order)
      | none => .unknown
  | _, _ => .unknown

/-- A datum is equal to one of the given ones. -/
def among (datum : Option Scalar) (members : List (Option Scalar)) : Truth :=
  .any (members.map (compareData .equal datum))

/-- Whether null is among some items is unknown. -/
theorem among_null
    {members : List (Option Scalar)}
    (nonempty : members ≠ []) :
    among none members = .unknown := by
  refine Truth.any_unknown ?_ ?_
  · simpa using nonempty
  · intro truth member
    obtain ⟨other, -, rfl⟩ := List.mem_map.mp member
    rfl

/-- Null is among no items. -/
theorem among_null_ne_holds (members : List (Option Scalar)) :
    among none members ≠ .holds := by
  by_cases isEmpty : members = []
  · rw [isEmpty]
    decide
  · rw [among_null isEmpty]
    decide

/-- A text matches a pattern. -/
def matchesPattern (datum : Option Scalar) (pattern : String) : Truth :=
  match datum with
  | some (.text content) => .ofBool (Like.isMatch pattern.toList content.toList)
  | _ => .unknown

/-- A datum in lower case, if asked for; only texts have letters. -/
def loweredDatum (lowered : Bool) (datum : Option Scalar) : Option Scalar :=
  match datum with
  | some (.text content) => some (.text (if lowered then Text.lowercase content else content))
  | datum => datum

end Sql

/-- The datum that an operand is passed as; a list is none. -/
def Operand.datum? : Operand → Option Scalar
  | scalar value => some value
  | list _ => none

/-- The datum that a field value is stored as; what is missing is stored as null. -/
def FieldValue.datum? : FieldValue → Option Scalar
  | scalar value => some value
  | _ => none

namespace Sql

/-- The datum in a column, as it is read. -/
def Store.read (store : Store) (column : Column) : Option Scalar :=
  loweredDatum column.lowered (store.column column.parts)

/-- The data in the rows of a relation, as they are read. -/
def Store.readRows (store : Store) (relation : Column) : List (Option Scalar) :=
  (store.relation relation.parts).map (loweredDatum relation.lowered)

/-- The truth value of a condition. -/
def Condition.evaluate (store : Store) : Condition → Truth
  | constant truth => .ofBool truth
  | compare column comparison parameter =>
      compareData comparison (store.read column) parameter.datum?
  | like column pattern => matchesPattern (store.read column) pattern
  | member column negated members =>
      (among (store.read column) (members.map (·.datum?))).negatedIf negated
  | element relation negated members =>
      let found := (store.readRows relation).any fun row =>
        among row (members.map (·.datum?)) == .holds
      (Truth.ofBool found).negatedIf negated

/--
A database holds a value of a field: in the field's column or, item by item, in
the rows of the field's relation.
-/
def Store.Holds (store : Store) (parts : List String) : FieldValue → Prop
  | .list items => store.relation parts = items.map (·.datum?)
  | value => store.column parts = value.datum?

end Sql

end FieldSearch
