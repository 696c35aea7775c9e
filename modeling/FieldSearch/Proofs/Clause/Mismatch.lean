import FieldSearch.Compiler
import FieldSearch.Proofs.Clause.Comparison
import FieldSearch.Record.Developer

namespace FieldSearch

/-!
# Values of another kind

A value of a kind that none of the candidates can be compared with stands in no
relation to any of them. No clause holds of such a value, except that a test for
absence from a set negates the test for membership: what cannot be compared with a
member is no member, and the test holds.
-/

namespace Clause

/-- Scalars that stand in a relation are of kinds that can be compared. -/
theorem comparable_of_holdsOfScalars
    {clause : Clause}
    {operator : Operator}
    {held given : Scalar}
    (holds : clause.holdsOfScalars operator held given = true) :
    held.kind.Comparable given.kind := by
  cases held <;> cases given <;>
    first
    | exact .same _
    | exact .integerWithDecimal
    | exact .decimalWithInteger
    | cases holds

/-- No candidate is of a kind that a scalar can be compared with. -/
def Mismatches (clause : Clause) (held : Scalar) : Prop :=
  ∀ candidate, .scalar candidate ∈ clause.value.items → ¬ held.kind.Comparable candidate.kind

section

variable
  {clause : Clause}
  {held : Scalar}

theorem Mismatches.holdsOfAny_eq_false
    (mismatches : clause.Mismatches held)
    (operator : Operator) :
    clause.holdsOfAny operator [.scalar held] clause.value.items = false := by
  rw [Bool.eq_false_iff]
  intro holds
  obtain ⟨leaf, isHeld, candidate, member, related⟩ := holdsOfAny_iff.mp holds
  cases List.mem_singleton.mp isHeld
  exact mismatches candidate member (comparable_of_holdsOfScalars related)

/-- Without a member that equals it, a value only passes the test for absence. -/
theorem acceptsMember_iff_of_holdsOfAny_eq_false
    {held : FieldValue}
    {given : List Operand}
    (noneEqual : clause.holdsOfAny .eq [held] given = false) :
    clause.acceptsMember held given = true ↔
      clause.operator = .ne ∨ clause.operator = .notIn := by
  unfold acceptsMember
  rw [noneEqual]
  cases clause.operator <;> simp [Operator.asMembership?, Operator.normalize]

end

/--
A type mismatch matches only by exclusion. A clause whose candidates are all of kinds
that a scalar cannot be compared with does not hold of it, whatever its operator and
its letter case, unless it excludes the members of a list. Then it does hold.
-/
theorem accepts_mismatched_iff
    (clause : Clause)
    (held : Scalar)
    (mismatches : clause.Mismatches held) :
    clause.accepts (.scalar held) = true ↔
      clause.value.isList = true ∧ (clause.operator = .ne ∨ clause.operator = .notIn) := by
  have unequal := mismatches.holdsOfAny_eq_false .eq
  unfold accepts
  cases value : clause.value with
  | scalar candidate =>
      have member : .scalar candidate ∈ clause.value.items := by
        rw [value]
        exact List.mem_singleton_self _
      have unrelated : clause.holdsOfScalars clause.operator held candidate ≠ true := fun holds =>
        mismatches candidate member (comparable_of_holdsOfScalars holds)
      simp [unrelated, Operand.isList]
  | list members =>
      have noneEqual : clause.holdsOfAny .eq [.scalar held] members = false := by
        rw [value] at unequal
        exact unequal
      simp [acceptsMember_iff_of_holdsOfAny_eq_false noneEqual, Operand.isList]

/-- The search for developers who do not go by a name. -/
def notNamed (operator : Operator) (value : Operand) : Clause where
  path := ⟨[], "name"⟩
  operator := operator
  value := value

/-- A number is no name, and the test for absence from a list of names holds of it. -/
theorem accepts_mismatched_iff_notNamed :
    (Compiler.ofSchema Record.Developer.schema).compile {} ⟨"name", .notIn, .list ["Ada"]⟩ =
        .ok (notNamed .notIn (.list [.ofText "Ada"])) ∧
      (notNamed .notIn (.list [.ofText "Ada"])).accepts (.scalar (.integer 1)) = true ∧
        (Compiler.ofSchema Record.Developer.schema).compile {} ⟨"name", .ne, .single "Ada"⟩ =
          .ok (notNamed .ne (.ofText "Ada")) ∧
          ¬ (notNamed .ne (.ofText "Ada")).accepts (.scalar (.integer 1)) = true := by
  have notText : ¬ ValueKind.integer.Comparable .text := by
    intro comparable
    cases comparable
  have mismatches (operator : Operator) (value : Operand)
      (onlyAda : value.items = [.ofText "Ada"]) :
      (notNamed operator value).Mismatches (.integer 1) := by
    intro candidate member
    rw [notNamed, onlyAda, List.mem_singleton] at member
    cases member
    exact notText
  refine ⟨rfl, ?_, rfl, ?_⟩
  · exact (accepts_mismatched_iff _ _ (mismatches .notIn _ rfl)).mpr ⟨rfl, .inr rfl⟩
  · intro holds
    have excluded := (accepts_mismatched_iff _ _ (mismatches .ne _ rfl)).mp holds
    cases excluded.1

end Clause

end FieldSearch
