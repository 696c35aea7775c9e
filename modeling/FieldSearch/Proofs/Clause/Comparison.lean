import FieldSearch.Proofs.Clause.WellTyped

namespace FieldSearch

/-!
# Comparable values

What a clause says of a value that its candidates can be compared with. Numbers
of either kind are comparable with each other, other scalars with those of their
own kind. On comparable scalars an operator and its opposite never agree, and
equality with one candidate is membership in the set of that candidate.
-/

/-- Values of two kinds can be compared: they are of one kind, or both numbers. -/
inductive ValueKind.Comparable : ValueKind → ValueKind → Prop where
  | same (kind : ValueKind) : Comparable kind kind
  | integerWithDecimal : Comparable .integer .decimal
  | decimalWithInteger : Comparable .decimal .integer

/-- A value that is not a scalar of a kind which cannot be compared with the given one. -/
def FieldValue.ComparableWith (kind : ValueKind) : FieldValue → Prop
  | .scalar held => held.kind.Comparable kind
  | .missing => True
  | .list _ => True

/--
A present value that an operator decides on: a comparable scalar or, for tests of
equality and of membership, also a list with any contents.
-/
def FieldValue.PresentFor (operator : Operator) (kind : ValueKind) : FieldValue → Prop
  | .scalar held => held.kind.Comparable kind
  | .list _ => operator.isMembership = true
  | .missing => False

/-- Two operators of which one holds where the other does not. -/
inductive Operator.Opposed : Operator → Operator → Prop where
  | equality : Opposed .eq .ne
  | membership : Opposed .isIn .notIn
  | greater : Opposed .gt .lte
  | less : Opposed .lt .gte

/-- An equality test, and the set test that it is for a single candidate. -/
inductive Operator.EqualityForms : Operator → Operator → Prop where
  | positive : EqualityForms .eq .isIn
  | negative : EqualityForms .ne .notIn

namespace Operator.Opposed

variable {positive negative : Operator}

theorem admits_eq
    (opposed : positive.Opposed negative)
    (notSetTest : ¬ positive.IsSetTest)
    (outcome : Ordering) :
    negative.admits outcome = !positive.admits outcome := by
  cases opposed with
  | membership =>
      exact absurd (.inl rfl) notSetTest
  | equality | greater | less =>
      cases outcome <;> rfl

theorem holdsOfTexts_eq
    (opposed : positive.Opposed negative)
    (notSetTest : ¬ positive.IsSetTest)
    (content argument : String) :
    negative.holdsOfTexts content argument = !positive.holdsOfTexts content argument := by
  have admits := opposed.admits_eq notSetTest (compare content argument)
  cases opposed <;> exact admits

theorem ne_regex (opposed : positive.Opposed negative) :
    positive ≠ .regex ∧ negative ≠ .regex := by
  cases opposed <;> exact ⟨by decide, by decide⟩

/-- Where only equality is known, the opposite of an admitted operator is inequality. -/
theorem holdsOfEquality_eq
    (opposed : positive.Opposed negative)
    (notSetTest : ¬ positive.IsSetTest)
    {kind : ValueKind}
    (equalityAlone : kind = .boolean ∨ kind = .enumeration)
    (admitted : positive ∈ kind.operators)
    (equal : Bool) :
    negative.holdsOfEquality equal = !positive.holdsOfEquality equal := by
  cases opposed with
  | equality =>
      rfl
  | membership =>
      exact absurd (.inl rfl) notSetTest
  | greater | less =>
      rcases equalityAlone with rfl | rfl <;> exact absurd admitted (by decide)

end Operator.Opposed

namespace Clause

/-! What a clause says of scalars is a matter of its letter case and its pattern alone. -/

theorem holdsOfScalars_congr
    {left right : Clause}
    (sameCase : left.caseSensitive = right.caseSensitive)
    (samePattern : left.pattern = right.pattern) :
    left.holdsOfScalars = right.holdsOfScalars := by
  funext operator held given
  cases held <;> cases given <;>
    simp only [holdsOfScalars, holdsOfTexts, sameCase, samePattern]

theorem holdsOfAny_congr
    {left right : Clause}
    (sameCase : left.caseSensitive = right.caseSensitive)
    (samePattern : left.pattern = right.pattern) :
    left.holdsOfAny = right.holdsOfAny := by
  have sameItems : left.holdsOfItems = right.holdsOfItems := by
    funext operator held given
    cases held <;> cases given <;>
      simp only [holdsOfItems, holdsOfScalars_congr sameCase samePattern]
  funext operator held given
  rw [holdsOfAny, holdsOfAny, sameItems]

/-- Lists stand in no relation, so scalars are compared with scalars alone. -/
theorem holdsOfAny_iff
    {clause : Clause}
    {operator : Operator}
    {held : List FieldValue}
    {given : List Operand} :
    clause.holdsOfAny operator held given = true ↔
      ∃ leaf, .scalar leaf ∈ held ∧
        ∃ candidate, .scalar candidate ∈ given ∧
          clause.holdsOfScalars operator leaf candidate = true := by
  simp only [holdsOfAny, List.any_eq_true]
  constructor
  · rintro ⟨item, itemMember, candidate, candidateMember, related⟩
    cases item with
    | missing | list =>
        cases related
    | scalar leaf =>
        cases candidate with
        | scalar candidate =>
            exact ⟨leaf, itemMember, candidate, candidateMember, related⟩
        | list =>
            cases related
  · rintro ⟨leaf, itemMember, candidate, candidateMember, related⟩
    exact ⟨.scalar leaf, itemMember, .scalar candidate, candidateMember, related⟩

theorem holdsOfScalars_update
    (clause : Clause)
    (operator : Operator)
    (value : Operand) :
    { clause with operator := operator, value := value }.holdsOfScalars =
      clause.holdsOfScalars :=
  holdsOfScalars_congr rfl rfl

theorem holdsOfAny_update
    (clause : Clause)
    (operator : Operator)
    (value : Operand) :
    { clause with operator := operator, value := value }.holdsOfAny = clause.holdsOfAny :=
  holdsOfAny_congr rfl rfl

/-- An operator and its opposite disagree on comparable scalars. -/
theorem holdsOfScalars_opposed
    (clause : Clause)
    {positive negative : Operator}
    (opposed : positive.Opposed negative)
    (notSetTest : ¬ positive.IsSetTest)
    {held given : Scalar}
    (comparable : held.kind.Comparable given.kind)
    (admitted : positive ∈ given.kind.operators) :
    clause.holdsOfScalars negative held given = !clause.holdsOfScalars positive held given := by
  have admits := opposed.admits_eq notSetTest
  cases held <;> cases given <;> cases comparable
  case text.text.same content argument =>
    have notPatterns := opposed.ne_regex
    simp only [holdsOfScalars, holdsOfTexts, if_neg notPatterns.1, if_neg notPatterns.2,
      opposed.holdsOfTexts_eq notSetTest]
    split <;> rfl
  case boolean.boolean.same held given =>
    exact opposed.holdsOfEquality_eq notSetTest (.inl rfl) admitted (held == given)
  case variant.variant.same held given =>
    exact opposed.holdsOfEquality_eq notSetTest (.inr rfl) admitted (held == given)
  all_goals exact admits _

/-- On a present value, a clause with an operator and one with its opposite disagree. -/
theorem accepts_opposed
    (clause : Clause)
    {positive negative : Operator}
    (opposed : positive.Opposed negative)
    {type : ValueType}
    (typed : { clause with operator := positive }.WellTyped type)
    {held : FieldValue}
    (present : held.PresentFor positive type.kind) :
    { clause with operator := negative }.accepts held =
      !{ clause with operator := positive }.accepts held := by
  cases held with
  | missing =>
      cases present
  | list items =>
      cases opposed with
      | equality | membership =>
          simp only [accepts, acceptsCollection, Operator.normalize, holdsOfAny_update]
      | greater | less =>
          cases present
  | scalar held =>
      -- A well-typed clause has a list of candidates if and only if its operator is a set test.
      cases value : clause.value with
      | list given =>
          have setTest : positive.IsSetTest := by
            rw [← typed.isList_iff]
            simp [value, Operand.isList]
          cases opposed with
          | membership =>
              simp only [accepts, acceptsMember, Operator.asMembership?,
                Operator.normalize, holdsOfAny_update]
          | equality | greater | less =>
              rcases setTest with impossible | impossible <;> cases impossible
      | scalar given =>
          have notSetTest : ¬ positive.IsSetTest := by
            rw [← typed.isList_iff]
            simp [value, Operand.isList]
          have givenKind : given.kind = type.kind := by
            obtain ⟨leaf, same, leafTyped⟩ :=
              typed.value_isOf.isLeafOf (by simp [value, Operand.isList])
            rw [value] at same
            cases same
            exact leafTyped.kind_eq
          have admitted : positive ∈ given.kind.operators := givenKind ▸ typed.operator_mem
          have disagree :=
            clause.holdsOfScalars_opposed opposed notSetTest
              (givenKind ▸ present) admitted
          simp only [accepts, holdsOfScalars_update, disagree]

/-- Equality with a candidate is membership in the set of that candidate. -/
theorem accepts_equalityForms
    (clause : Clause)
    {equality membership : Operator}
    (forms : equality.EqualityForms membership)
    (given : Scalar)
    {held : FieldValue}
    (comparable : held.ComparableWith given.kind) :
    { clause with operator := equality, value := .scalar given }.accepts held =
      { clause with operator := membership, value := .list [.scalar given] }.accepts held := by
  cases held with
  | missing =>
      rfl
  | list items =>
      cases forms <;>
        simp only [accepts, acceptsCollection, Operator.normalize, Operand.items,
          holdsOfAny_update]
  | scalar held =>
      have single :
          clause.holdsOfAny .eq [.scalar held] [.scalar given] =
            clause.holdsOfScalars .eq held given := by
        simp [holdsOfAny, holdsOfItems]
      cases forms with
      | positive =>
          simp only [accepts, acceptsMember, Operator.asMembership?, Operator.normalize,
            holdsOfAny_update, holdsOfScalars_update, single]
      | negative =>
          -- The set test negates equality, which is inequality on comparable scalars alone.
          have disagree :=
            clause.holdsOfScalars_opposed .equality (by decide) comparable
              given.kind.equality_mem_operators.1
          simp only [accepts, acceptsMember, Operator.asMembership?, Operator.normalize,
            holdsOfAny_update, holdsOfScalars_update, single, disagree]

end Clause

end FieldSearch
