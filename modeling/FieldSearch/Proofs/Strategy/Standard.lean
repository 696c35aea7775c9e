import FieldSearch.Proofs.Clause.WellTyped

namespace FieldSearch

open Outcomes

/-!
# What the standard strategies build

The operator of a clause is a form of the one that was asked for. On a list, on
a collection and for set operators the form is the set test that the operator
amounts to, if it amounts to one; otherwise it is the operator itself. A
standard strategy builds the clause of a form that the kind of values admits,
and where there is none it refuses the operator that was asked for.
-/

/-- The form of an operator for fields of a shape, on a list of candidates or on a single one. -/
def Operator.formFor?
    (operator : Operator)
    (shape : FieldShape)
    (isList : Bool) :
    Option Operator :=
  if operator.IsSetTest ∨ isList = true ∨ shape = .collection then
    operator.asMembership?
  else
    some operator

/-- What an operator is refused for. -/
def FieldShape.refusedKind (shape : FieldShape) (kind : ValueKind) : String :=
  match shape with
  | .scalar => kind.name
  | .collection => "Collection"

/-- The clause of a form; letter case may be ignored in texts alone. -/
def Clause.ofForm
    (kind : ValueKind)
    (caseSensitive : Bool)
    (shape : FieldShape)
    (target : FieldPath)
    (form : Operator)
    (value : Operand) :
    Clause where
  path := target
  operator := form
  value := if form.IsSetTest then value.intoList else value
  caseSensitive := caseSensitive || kind != .text
  shape := shape

namespace Operator

/-- Every kind of values admits the set tests. -/
theorem IsSetTest.mem_operators
    {operator : Operator}
    (setTest : operator.IsSetTest)
    (kind : ValueKind) :
    operator ∈ kind.operators := by
  rcases setTest with rfl | rfl <;> cases kind <;> decide

theorem formFor?_collection (operator : Operator) (isList : Bool) :
    operator.formFor? .collection isList = operator.asMembership? := by
  simp [formFor?]

theorem formFor?_list (operator : Operator) (shape : FieldShape) :
    operator.formFor? shape true = operator.asMembership? := by
  simp [formFor?]

/-- Set tests are what they amount to. -/
theorem IsSetTest.formFor?_eq
    {operator : Operator}
    (setTest : operator.IsSetTest)
    (shape : FieldShape)
    (isList : Bool) :
    operator.formFor? shape isList = some operator := by
  rcases setTest with rfl | rfl <;> simp [formFor?, IsSetTest, asMembership?, normalize]

end Operator

namespace Strategy

theorem scalarClause_of_form
    {kind : String}
    {admitted : Operator → Bool}
    {operator form : Operator}
    {value : Operand}
    (isForm : operator.formFor? .scalar value.isList = some form)
    (isAdmitted : admitted form = true)
    (target : FieldPath) :
    scalarClause kind admitted target operator value =
      .ok {
        path := target
        operator := form
        value := if form.IsSetTest then value.intoList else value
      } := by
  unfold scalarClause
  by_cases asSet : operator.IsSetTest ∨ value.isList = true
  · have membership : operator.asMembership? = some form := by
      simpa [Operator.formFor?, asSet] using isForm
    have setTest := Operator.isSetTest_of_asMembership? membership
    rw [if_pos (by simpa [Operator.IsSetTest] using asSet), membership]
    simp [isAdmitted, setTest]
  · obtain rfl : operator = form := by
      simpa [Operator.formFor?, asSet] using isForm
    have notSetTest : ¬ operator.IsSetTest := fun setTest => asSet (.inl setTest)
    rw [if_neg (by simpa [Operator.IsSetTest] using asSet)]
    simp [isAdmitted, notSetTest]

theorem scalarClause_of_refused
    {kind : String}
    {admitted : Operator → Bool}
    {operator : Operator}
    {value : Operand}
    (refused :
      ∀ form, operator.formFor? .scalar value.isList = some form → admitted form = false)
    (target : FieldPath) :
    scalarClause kind admitted target operator value = .error (.invalidOperator operator kind) := by
  unfold scalarClause
  by_cases asSet : operator.IsSetTest ∨ value.isList = true
  · rw [if_pos (by simpa [Operator.IsSetTest] using asSet)]
    cases membership : operator.asMembership? with
    | none =>
        rfl
    | some form =>
        have notAdmitted := refused form (by simpa [Operator.formFor?, asSet] using membership)
        simp [notAdmitted]
  · have notAdmitted := refused operator (by simp [Operator.formFor?, asSet])
    rw [if_neg (by simpa [Operator.IsSetTest] using asSet)]
    simp [notAdmitted]

section Build

variable
  {kind : ValueKind}
  {shape : FieldShape}
  {operator form : Operator}
  {value : Operand}
  (caseSensitive : Bool)
  (target : FieldPath)

theorem standard_build_of_form
    (isForm : operator.formFor? .scalar value.isList = some form)
    (admitted : form ∈ kind.operators)
    (notPattern : form ≠ .regex) :
    (StrategyTable.standard.scalar kind caseSensitive).build target operator value =
      .ok (.ofForm kind caseSensitive .scalar target form value) := by
  by_cases isText : kind = .text
  · subst isText
    have operatorNotPattern : operator ≠ .regex := by
      rintro rfl
      -- The only form of a pattern search is itself.
      have noMembership : Operator.regex.asMembership? = none := rfl
      simp only [Operator.formFor?, noMembership] at isForm
      split at isForm <;> cases isForm
      exact notPattern rfl
    have isAdmitted := (isText_iff_mem_operators form).mpr admitted
    rw [standard_build_text, textClause, if_neg operatorNotPattern,
      scalarClause_of_form isForm isAdmitted]
    cases caseSensitive <;> rfl
  · obtain ⟨isAdmitted, documented, builds⟩ := standard_build_eq_scalarClause isText caseSensitive
    have otherKind : (kind != .text) = true := by simpa using isText
    rw [builds, scalarClause_of_form isForm ((documented form).mpr admitted), Clause.ofForm,
      otherKind, Bool.or_true]

theorem standard_build_of_refused
    (refused :
      ∀ form, operator.formFor? .scalar value.isList = some form → form ∉ kind.operators) :
    (StrategyTable.standard.scalar kind caseSensitive).build target operator value =
      .error (.invalidOperator operator kind.name) := by
  by_cases isText : kind = .text
  · subst isText
    have notAdmitted :
        ∀ form, operator.formFor? .scalar value.isList = some form → form.isText = false := by
      intro form isForm
      rw [Bool.eq_false_iff, Ne, isText_iff_mem_operators]
      exact refused form isForm
    rw [standard_build_text, textClause]
    split
    · next isPattern =>
        subst isPattern
        have isList : value.isList = true := by
          by_contra single
          refine refused .regex ?_ (by decide)
          simp [Operator.formFor?, Operator.IsSetTest, single]
        rw [patternClause, if_pos isList]
    · rw [scalarClause_of_refused notAdmitted]
      rfl
  · obtain ⟨isAdmitted, documented, builds⟩ := standard_build_eq_scalarClause isText caseSensitive
    rw [builds]
    refine scalarClause_of_refused ?_ target
    intro form isForm
    rw [Bool.eq_false_iff, Ne, documented]
    exact refused form isForm

/-- Fitted to a shape, a standard strategy builds the clause of an admitted form. -/
theorem fit_build_of_form
    (isForm : operator.formFor? shape value.isList = some form)
    (admitted : form ∈ kind.operators)
    (notPattern : form ≠ .regex) :
    (StrategyTable.fit (StrategyTable.standard.scalar kind caseSensitive) shape).build
        target operator value =
      .ok (.ofForm kind caseSensitive shape target form value) := by
  cases shape with
  | scalar =>
      exact standard_build_of_form caseSensitive target isForm admitted notPattern
  | collection =>
      rw [Operator.formFor?_collection] at isForm
      have setTest := Operator.isSetTest_of_asMembership? isForm
      -- The strategy of the elements is asked for the form already, with a list.
      have inner := @standard_build_of_form kind form form value.intoList caseSensitive target
        (setTest.formFor?_eq .scalar _) admitted notPattern
      simp only [StrategyTable.fit, collection, isForm, inner, Except.map, Clause.ofForm]
      simp [setTest]

/-- Fitted to a shape, a standard strategy refuses operators without an admitted form. -/
theorem fit_build_of_refused
    (refused :
      ∀ form, operator.formFor? shape value.isList = some form → form ∉ kind.operators) :
    (StrategyTable.fit (StrategyTable.standard.scalar kind caseSensitive) shape).build
        target operator value =
      .error (.invalidOperator operator (shape.refusedKind kind)) := by
  cases shape with
  | scalar =>
      exact standard_build_of_refused caseSensitive target refused
  | collection =>
      simp only [StrategyTable.fit, collection]
      cases membership : operator.asMembership? with
      | none =>
          rfl
      | some form =>
          rw [← operator.formFor?_collection value.isList] at membership
          have setTest : form.IsSetTest := by
            rw [Operator.formFor?_collection] at membership
            exact Operator.isSetTest_of_asMembership? membership
          exact absurd (setTest.mem_operators kind) (refused form membership)

end Build

end Strategy

end FieldSearch
