import FieldSearch.Compiler
import FieldSearch.Proofs.Clause.Comparison
import FieldSearch.Proofs.Clause.Numbers
import FieldSearch.Record.Developer

namespace FieldSearch

/-!
# Outcomes on numbers

A clause whose candidates are numbers relates the rational numbers that it is given
to those that a record holds. How a number is written, as an integer or as a decimal
of whatever scale and sign of zero, is not seen in the outcome: not for single values,
and not for the members of sets and of collections.
-/

/-- What an operator says of a held number and a given one. -/
def Operator.HoldsOfNumbers : Operator → ℚ → ℚ → Prop
  | .eq, held, given => held = given
  | .is, held, given => held = given
  | .ne, held, given => held ≠ given
  | .gt, held, given => given < held
  | .after, held, given => given < held
  | .gte, held, given => given ≤ held
  | .lt, held, given => held < given
  | .before, held, given => held < given
  | .lte, held, given => held ≤ given
  | _, _, _ => False

theorem Operator.admits_compare_iff
    (operator : Operator)
    (held given : ℚ) :
    operator.admits (compare held given) = true ↔ operator.HoldsOfNumbers held given := by
  cases operator <;>
    simp [admits, normalize, HoldsOfNumbers, compare_lt_iff_lt, compare_gt_iff_gt]

theorem Operator.holdsOfNumbers_normalize (operator : Operator) :
    operator.normalize.HoldsOfNumbers = operator.HoldsOfNumbers := by
  cases operator <;> rfl

/-- The value is a scalar that denotes a number. -/
def FieldValue.Denotes (number : ℚ) (value : FieldValue) : Prop :=
  ∃ held, value = .scalar held ∧ held.toRat? = some number

/-- The operand is a scalar that denotes a number. -/
def Operand.Denotes (number : ℚ) (operand : Operand) : Prop :=
  ∃ given, operand = .scalar given ∧ given.toRat? = some number

/-! Scalars that denote one number, in values and in operands. -/

/-- Two scalars are the same, or they denote the same number. -/
inductive Scalar.SameNumber : Scalar → Scalar → Prop where
  | refl (value : Scalar) : SameNumber value value
  | denoting
      {left right : Scalar}
      {number : ℚ}
      (leftDenotes : left.toRat? = some number)
      (rightDenotes : right.toRat? = some number) :
      SameNumber left right

/-- Two operands differ at most in how their numbers are written. -/
inductive Operand.SameNumbers : Operand → Operand → Prop where
  | scalar
      {left right : Scalar}
      (same : left.SameNumber right) :
      SameNumbers (.scalar left) (.scalar right)
  | list
      {left right : List Operand}
      (itemwise : List.Forall₂ SameNumbers left right) :
      SameNumbers (.list left) (.list right)

/-- Two values of fields differ at most in how their numbers are written. -/
inductive FieldValue.SameNumbers : FieldValue → FieldValue → Prop where
  | missing : SameNumbers .missing .missing
  | scalar
      {left right : Scalar}
      (same : left.SameNumber right) :
      SameNumbers (.scalar left) (.scalar right)
  | list
      {left right : List FieldValue}
      (itemwise : List.Forall₂ SameNumbers left right) :
      SameNumbers (.list left) (.list right)

theorem Operand.SameNumbers.items
    {left right : Operand}
    (same : left.SameNumbers right) :
    List.Forall₂ Operand.SameNumbers left.items right.items := by
  cases same with
  | scalar same =>
      exact .cons (.scalar same) .nil
  | list itemwise =>
      exact itemwise

/-- Tests that agree on related items agree on lists of them. -/
theorem Lookup.any_eq_of_forall₂
    {related : α → β → Prop}
    {test : α → Bool}
    {otherTest : β → Bool}
    (sameTest : ∀ item other, related item other → test item = otherTest other)
    {items : List α}
    {others : List β}
    (itemwise : List.Forall₂ related items others) :
    items.any test = others.any otherTest := by
  induction itemwise with
  | nil =>
      rfl
  | cons first _ inductionHypothesis =>
      rw [List.any_cons, List.any_cons, sameTest _ _ first, inductionHypothesis]

namespace Clause

section

variable
  (clause : Clause)
  (operator : Operator)

/-- A number is comparable with numbers alone. -/
theorem holdsOfScalars_eq_false_of_toRat?
    {held given : Scalar}
    (oneNumber : held.toRat?.isSome ≠ given.toRat?.isSome) :
    clause.holdsOfScalars operator held given = false := by
  cases held <;> cases given <;> simp [Scalar.toRat?, holdsOfScalars] at oneNumber ⊢

theorem holdsOfScalars_sameNumber_left
    {left right : Scalar}
    (same : left.SameNumber right)
    (given : Scalar) :
    clause.holdsOfScalars operator left given = clause.holdsOfScalars operator right given := by
  cases same with
  | refl =>
      rfl
  | denoting leftDenotes rightDenotes =>
      cases givenDenotes : given.toRat? with
      | none =>
          rw [holdsOfScalars_eq_false_of_toRat? clause operator (by simp [leftDenotes, givenDenotes]),
            holdsOfScalars_eq_false_of_toRat? clause operator (by simp [rightDenotes, givenDenotes])]
      | some number =>
          rw [clause.holdsOfScalars_of_toRat? operator leftDenotes givenDenotes,
            clause.holdsOfScalars_of_toRat? operator rightDenotes givenDenotes]

theorem holdsOfScalars_sameNumber_right
    (held : Scalar)
    {left right : Scalar}
    (same : left.SameNumber right) :
    clause.holdsOfScalars operator held left = clause.holdsOfScalars operator held right := by
  cases same with
  | refl =>
      rfl
  | denoting leftDenotes rightDenotes =>
      cases heldDenotes : held.toRat? with
      | none =>
          rw [holdsOfScalars_eq_false_of_toRat? clause operator (by simp [leftDenotes, heldDenotes]),
            holdsOfScalars_eq_false_of_toRat? clause operator (by simp [rightDenotes, heldDenotes])]
      | some number =>
          rw [clause.holdsOfScalars_of_toRat? operator heldDenotes leftDenotes,
            clause.holdsOfScalars_of_toRat? operator heldDenotes rightDenotes]

theorem holdsOfItems_sameNumbers
    {left right : FieldValue}
    (sameHeld : left.SameNumbers right)
    {given other : Operand}
    (sameGiven : given.SameNumbers other) :
    clause.holdsOfItems operator left given = clause.holdsOfItems operator right other := by
  cases sameHeld with
  | missing =>
      rfl
  | list =>
      rfl
  | scalar sameHeld =>
      cases sameGiven with
      | list =>
          rfl
      | scalar sameGiven =>
          simp only [holdsOfItems]
          rw [clause.holdsOfScalars_sameNumber_left operator sameHeld,
            clause.holdsOfScalars_sameNumber_right operator _ sameGiven]

theorem holdsOfAny_sameNumbers
    {left right : List FieldValue}
    (sameHeld : List.Forall₂ FieldValue.SameNumbers left right)
    {given other : List Operand}
    (sameGiven : List.Forall₂ Operand.SameNumbers given other) :
    clause.holdsOfAny operator left given = clause.holdsOfAny operator right other := by
  refine Lookup.any_eq_of_forall₂ ?_ sameHeld
  intro _ _ sameItem
  refine Lookup.any_eq_of_forall₂ ?_ sameGiven
  intro _ _ sameCandidate
  exact clause.holdsOfItems_sameNumbers operator sameItem sameCandidate

end

/-- Each candidate denotes a number. -/
def HasNumbers (clause : Clause) : Prop :=
  ∀ candidate ∈ clause.value.items, ∃ number, candidate.Denotes number

/-- Some item denotes a number that an operator holds of, given that of some candidate. -/
def RelatesNumbers
    (clause : Clause)
    (operator : Operator)
    (items : List FieldValue) :
    Prop :=
  ∃ item ∈ items, ∃ candidate ∈ clause.value.items, ∃ held given,
    item.Denotes held ∧ candidate.Denotes given ∧ operator.HoldsOfNumbers held given

/-- A test for membership of some item asks for equal numbers, one for absence for none. -/
structure DecidedByNumbers
    (clause : Clause)
    (value : FieldValue)
    (items : List FieldValue) :
    Prop where
  of_isIn :
    clause.operator.asMembership? = some .isIn →
      (clause.accepts value = true ↔ clause.RelatesNumbers .eq items)
  of_notIn :
    clause.operator.asMembership? = some .notIn →
      (clause.accepts value = true ↔ ¬ clause.RelatesNumbers .eq items)

section

variable
  {clause : Clause}
  {operator : Operator}
  {items : List FieldValue}

/-- Where the candidates are numbers, what stands in a relation to them are numbers. -/
theorem HasNumbers.holdsOfAny_iff (numeric : clause.HasNumbers) :
    clause.holdsOfAny operator items clause.value.items = true ↔
      clause.RelatesNumbers operator items := by
  rw [Clause.holdsOfAny_iff]
  constructor
  · rintro ⟨leaf, itemMember, candidate, candidateMember, related⟩
    obtain ⟨number, _, isScalar, givenDenotes⟩ := numeric _ candidateMember
    cases isScalar
    cases heldDenotes : leaf.toRat? with
    | none =>
        rw [clause.holdsOfScalars_eq_false_of_toRat? operator
          (by simp [heldDenotes, givenDenotes])] at related
        cases related
    | some held =>
        rw [clause.holdsOfScalars_of_toRat? operator heldDenotes givenDenotes,
          Operator.admits_compare_iff] at related
        exact ⟨_, itemMember, _, candidateMember, held, number,
          ⟨leaf, rfl, heldDenotes⟩, ⟨candidate, rfl, givenDenotes⟩, related⟩
  · rintro ⟨_, itemMember, _, candidateMember, held, given, ⟨leaf, rfl, heldDenotes⟩,
      ⟨candidate, rfl, givenDenotes⟩, related⟩
    refine ⟨leaf, itemMember, candidate, candidateMember, ?_⟩
    rw [clause.holdsOfScalars_of_toRat? operator heldDenotes givenDenotes,
      Operator.admits_compare_iff]
    exact related

theorem accepts_number
    {held given : Scalar}
    {heldNumber givenNumber : ℚ}
    (single : clause.value = .scalar given)
    (heldDenotes : held.toRat? = some heldNumber)
    (givenDenotes : given.toRat? = some givenNumber) :
    clause.accepts (.scalar held) = true ↔
      clause.operator.HoldsOfNumbers heldNumber givenNumber := by
  simp only [accepts, single]
  rw [clause.holdsOfScalars_of_toRat? _ heldDenotes givenDenotes,
    Operator.admits_compare_iff]

theorem HasNumbers.decidedByNumbers_scalar
    (numeric : clause.HasNumbers)
    (isList : clause.value.isList = true)
    (held : Scalar) :
    clause.DecidedByNumbers (.scalar held) [.scalar held] := by
  obtain ⟨given, isGiven⟩ := clause.value.exists_items_of_isList isList
  constructor
  · intro isIn
    simp only [← numeric.holdsOfAny_iff, accepts, acceptsMember, isGiven, isIn, Operand.items]
  · intro notIn
    simp only [← numeric.holdsOfAny_iff, accepts, acceptsMember, isGiven, notIn, Operand.items,
      Bool.not_eq_true', Bool.not_eq_true]

theorem HasNumbers.decidedByNumbers_list (numeric : clause.HasNumbers) :
    clause.DecidedByNumbers (.list items) items := by
  constructor <;> intro membership
  all_goals
    rw [← numeric.holdsOfAny_iff]
    simp only [accepts, acceptsCollection]
    cases isOperator : clause.operator <;> rw [isOperator] at membership <;>
      simp [Operator.asMembership?, Operator.normalize] at membership ⊢

/-- Beside tests of equality, an operator asks for some item that it holds of. -/
theorem HasNumbers.accepts_list_of_comparison
    (numeric : clause.HasNumbers)
    (comparison : clause.operator.asMembership? = none) :
    clause.accepts (.list items) = true ↔ clause.RelatesNumbers clause.operator items := by
  have normalized :
      clause.accepts (.list items) =
        clause.holdsOfAny clause.operator.normalize items clause.value.items := by
    simp only [accepts, acceptsCollection]
    cases isOperator : clause.operator <;> rw [isOperator] at comparison <;>
      simp [Operator.asMembership?, Operator.normalize] at comparison ⊢
  rw [normalized, numeric.holdsOfAny_iff]
  unfold RelatesNumbers
  rw [Operator.holdsOfNumbers_normalize]

/-- A clause does not tell values apart that differ in how their numbers are written. -/
theorem accepts_sameNumbers
    {value other : Operand}
    (sameGiven : value.SameNumbers other)
    {left right : FieldValue}
    (sameHeld : left.SameNumbers right) :
    { clause with value := value }.accepts left =
      { clause with value := other }.accepts right := by
  cases sameHeld with
  | missing =>
      rfl
  | list itemwise =>
      have sameAny (operator : Operator) :=
        clause.holdsOfAny_sameNumbers operator itemwise sameGiven.items
      simp only [accepts, acceptsCollection, holdsOfAny_update, sameAny]
  | scalar sameScalar =>
      cases sameGiven with
      | scalar sameScalarGiven =>
          simp only [accepts, holdsOfScalars_update]
          rw [clause.holdsOfScalars_sameNumber_left _ sameScalar,
            clause.holdsOfScalars_sameNumber_right _ _ sameScalarGiven]
      | list itemwise =>
          have sameAny :=
            clause.holdsOfAny_sameNumbers .eq (.cons (.scalar sameScalar) .nil) itemwise
          simp only [accepts, acceptsMember, holdsOfAny_update, sameAny]

end

/--
A clause over numbers decides on the rational numbers denoted. A single number is
related to a single candidate as its operator says. A set test asks whether the number,
or that of some item of a collection, is the number of a candidate. Other operators
ask for an item and a candidate that they hold of. Nothing else of how numbers are
written, in the clause or in the field, has a part in the outcome.
-/
theorem accepts_numbers_exactly
    (clause : Clause)
    (numeric : clause.HasNumbers) :
    (∀ {held given : Scalar} {heldNumber givenNumber : ℚ},
        clause.value = .scalar given →
        held.toRat? = some heldNumber →
        given.toRat? = some givenNumber →
          (clause.accepts (.scalar held) = true ↔
            clause.operator.HoldsOfNumbers heldNumber givenNumber)) ∧
      (clause.value.isList = true →
        ∀ held, clause.DecidedByNumbers (.scalar held) [.scalar held]) ∧
      (∀ items,
        clause.DecidedByNumbers (.list items) items ∧
          (clause.operator.asMembership? = none →
            (clause.accepts (.list items) = true ↔
              clause.RelatesNumbers clause.operator items))) ∧
      (∀ {value : Operand} {left right : FieldValue},
        clause.value.SameNumbers value →
        left.SameNumbers right →
          clause.accepts left = { clause with value := value }.accepts right) :=
  ⟨accepts_number, numeric.decidedByNumbers_scalar,
    fun _ => ⟨numeric.decidedByNumbers_list, numeric.accepts_list_of_comparison⟩,
    fun sameGiven sameHeld => accepts_sameNumbers sameGiven sameHeld⟩

/-- One, written with two places. -/
def oneAndNoCents : Decimal :=
  ⟨false, 100, 2, by decide, by decide⟩

/-- The search for developers by their rate, compared with one. -/
def ratesBesideOne (operator : Operator) (value : Operand) : Clause where
  path := ⟨[], "rate"⟩
  operator := operator
  value := value

/-- Integers are compared with a decimal by what they denote: one is no other rate, two is above. -/
theorem accepts_numbers_exactly_ratesBesideOne :
    (Compiler.ofSchema Record.Developer.schema).compile {} ⟨"rate", .ne, .list ["1.00"]⟩ =
        .ok (ratesBesideOne .notIn (.list [.scalar (.decimal oneAndNoCents)])) ∧
      ¬ (ratesBesideOne .notIn (.list [.scalar (.decimal oneAndNoCents)])).accepts
          (.scalar (.integer 1)) = true ∧
        (Compiler.ofSchema Record.Developer.schema).compile {} ⟨"rate", .gt, .single "1.00"⟩ =
            .ok (ratesBesideOne .gt (.scalar (.decimal oneAndNoCents))) ∧
          (ratesBesideOne .gt (.scalar (.decimal oneAndNoCents))).accepts
            (.scalar (.integer 2)) = true := by
  have oneDenotes : (Scalar.decimal oneAndNoCents).toRat? = some 1 := by
    norm_num [Scalar.toRat?, oneAndNoCents, Decimal.toRat, Decimal.numerator,
      Decimal.denominator]
  have twoDenotes : (Scalar.integer 2).toRat? = some 2 := rfl
  have numeric (clause : Clause)
      (onlyOne : clause.value.items = [.scalar (.decimal oneAndNoCents)]) :
      clause.HasNumbers := by
    intro candidate member
    rw [onlyOne] at member
    exact ⟨1, _, List.mem_singleton.mp member, oneDenotes⟩
  refine ⟨rfl, ?_, rfl, ?_⟩
  · let clause := ratesBesideOne .notIn (.list [.scalar (.decimal oneAndNoCents)])
    have decided := (accepts_numbers_exactly clause (numeric clause rfl)).2.1 rfl (.integer 1)
    rw [decided.of_notIn rfl, not_not]
    exact ⟨_, .head _, _, .head _, 1, 1, ⟨_, rfl, rfl⟩, ⟨_, rfl, oneDenotes⟩, rfl⟩
  · let clause := ratesBesideOne .gt (.scalar (.decimal oneAndNoCents))
    have compared := (accepts_numbers_exactly clause (numeric clause rfl)).1 rfl twoDenotes oneDenotes
    rw [compared]
    exact one_lt_two

end Clause

end FieldSearch
