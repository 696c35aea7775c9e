import FieldSearch.Proofs.Clause.WellTyped
import FieldSearch.Proofs.Sql.Reading
import FieldSearch.Proofs.Sql.TextSearch

namespace FieldSearch

open Outcomes Sql

/-!
# Agreement of SQL texts with evaluation in memory

A well-typed clause has a SQL condition unless it is a pattern search, and the
condition holds in a database just if the clause accepts the value that the
database holds. The two evaluations are related from the inside out: for two
scalars, for a scalar and a list of candidates, for the rows of a collection. What
holds of the condition then holds of the text and the parameters that the clause is
written as, since these are read back as the condition.
-/

/--
A value that is present in a field: a scalar of the field's kind, or a
collection of such scalars in which items may be missing.
-/
inductive FieldValue.Present (kind : ValueKind) : FieldShape → FieldValue → Prop where
  | scalar
      {held : Scalar} :
      held.kind = kind →
      Present kind .scalar (.scalar held)
  | collection
      {items : List FieldValue} :
      (∀ item ∈ items,
        item = .missing ∨ ∃ held, item = .scalar held ∧ held.kind = kind) →
      Present kind .collection (.list items)

/-! Operators that have a comparison in SQL. -/

theorem Operator.admits_eq_test
    {operator : Operator}
    {comparison : Comparison}
    (form : Comparison.ofOperator? operator.normalize = some comparison)
    (order : Ordering) :
    operator.admits order = comparison.test order := by
  cases operator <;> cases form <;> rfl

theorem Operator.holdsOfTexts_eq_test
    {operator : Operator}
    {comparison : Comparison}
    (form : Comparison.ofOperator? operator.normalize = some comparison)
    (content argument : String) :
    operator.holdsOfTexts content argument = comparison.test (compare content argument) := by
  rw [← admits_eq_test form]
  cases operator <;> cases form <;> rfl

theorem Operator.ne_regex_of_comparison
    {operator : Operator}
    {comparison : Comparison}
    (form : Comparison.ofOperator? operator.normalize = some comparison) :
    operator ≠ .regex := by
  rintro rfl
  cases form

/-- Where only equality is known, no other comparison is admitted. -/
theorem Operator.holdsOfEquality_eq_test
    {operator : Operator}
    {comparison : Comparison}
    (form : Comparison.ofOperator? operator.normalize = some comparison)
    {kind : ValueKind}
    (equalityAlone : kind = .boolean ∨ kind = .enumeration)
    (admitted : operator ∈ kind.operators)
    {order : Ordering}
    {equal : Bool}
    (decided : order = .eq ↔ equal = true) :
    operator.holdsOfEquality equal = comparison.test order := by
  have isEquality : (order == .eq) = equal := by
    rw [Bool.eq_iff_iff, beq_iff_eq]
    exact decided
  rcases equalityAlone with rfl | rfl <;> cases operator <;> cases form <;>
    first
    | exact absurd admitted (by decide)
    | simp [holdsOfEquality, normalize, Comparison.test, ← isEquality, bne]

/-- Every admitted operator is a set test, a pattern search, a comparison or a search in texts. -/
theorem Operator.cases_of_mem_operators
    {kind : ValueKind}
    {operator : Operator}
    (admitted : operator ∈ kind.operators) :
    operator.IsSetTest ∨
      operator = .regex ∨
        (∃ comparison, Comparison.ofOperator? operator.normalize = some comparison) ∨
          kind = .text ∧
            Comparison.ofOperator? operator.normalize = none ∧
              ∃ placement, Like.Placement.ofOperator? operator.normalize = some placement := by
  cases operator with
  | isIn | notIn =>
      exact .inl (by simp [IsSetTest])
  | regex =>
      exact .inr (.inl rfl)
  | eq | ne | gt | gte | lt | lte | before | after | is =>
      exact .inr (.inr (.inl ⟨_, rfl⟩))
  | startsWith | endsWith | contains =>
      refine .inr (.inr (.inr ⟨?_, rfl, _, rfl⟩))
      cases kind <;> first | rfl | exact absurd admitted (by decide)

/-! Lower casing: the letter case of a clause decides it, unless there is nothing to compare. -/

/-- A value of a text type leads with a text, unless it is an empty list. -/
theorem Operand.leadsWithText_of_isOf
    {type : ValueType}
    {operand : Operand}
    (typed : operand.IsOf type)
    (isText : type.kind = .text)
    (notEmpty : operand.items ≠ []) :
    operand.leadsWithText = true := by
  have leafLeads :
      ∀ {leaf : Operand}, leaf.IsLeafOf type → leaf.leadsWithText = true := by
    rintro leaf ⟨scalar, rfl, scalarTyped⟩
    have scalarIsText := scalarTyped.kind_eq.trans isText
    cases scalar <;> cases scalarIsText
    rfl
  cases operand with
  | scalar value =>
      exact leafLeads (typed.isLeafOf rfl)
  | list items =>
      cases items with
      | nil =>
          exact absurd rfl notEmpty
      | cons first rest =>
          have firstLeads := leafLeads (typed first (by simp [items]))
          simpa only [leadsWithText, leadWithText] using firstLeads

theorem Clause.lowersText_of_wellTyped
    {type : ValueType}
    {clause : Clause}
    (typed : clause.WellTyped type)
    (notEmpty : clause.value.items ≠ []) :
    clause.lowersText = !clause.caseSensitive := by
  cases anyCase : clause.caseSensitive with
  | true =>
      simp [lowersText, anyCase]
  | false =>
      have isText := typed.kind_of_anyCase anyCase
      simp [lowersText, anyCase, Operand.leadsWithText_of_isOf typed.value_isOf isText notEmpty]

namespace Clause

/-- Texts are compared as the clause asks for, in lower case or as they are. -/
theorem holdsOfTexts_of_ne_regex
    (clause : Clause)
    {operator : Operator}
    (notPattern : operator ≠ .regex)
    (lowering : clause.lowersText = !clause.caseSensitive)
    (content argument : String) :
    clause.holdsOfTexts operator content argument =
      operator.holdsOfTexts
        (if clause.lowersText then Text.lowercase content else content)
        (if clause.lowersText then Text.lowercase argument else argument) := by
  rw [holdsOfTexts, if_neg notPattern, lowering]
  cases clause.caseSensitive <;> rfl

/-- Scalars of one kind compare in SQL as they do in memory. -/
theorem compareData_eq_ofBool
    (clause : Clause)
    (lowering : clause.lowersText = !clause.caseSensitive)
    {operator : Operator}
    {comparison : Comparison}
    (form : Comparison.ofOperator? operator.normalize = some comparison)
    {held given : Scalar}
    (sameKind : held.kind = given.kind)
    (admitted : operator ∈ given.kind.operators) :
    compareData comparison (loweredDatum clause.lowersText (some held))
        ((Operand.scalar given).loweredIf clause.lowersText).datum? =
      .ofBool (clause.holdsOfScalars operator held given) := by
  cases held <;> cases given <;> cases sameKind
  case text.text.refl content argument =>
    simp only [holdsOfScalars, clause.holdsOfTexts_of_ne_regex
      (Operator.ne_regex_of_comparison form) lowering, Operator.holdsOfTexts_eq_test form]
    rfl
  case integer.integer.refl held given =>
    rw [clause.holdsOfScalars_of_toRat? operator rfl rfl, Operator.admits_eq_test form]
    rfl
  case decimal.decimal.refl held given =>
    rw [clause.holdsOfScalars_of_toRat? operator rfl rfl, Operator.admits_eq_test form]
    rfl
  case temporal.temporal.refl held given =>
    rw [holdsOfScalars, Operator.admits_eq_test form]
    rfl
  case boolean.boolean.refl held given =>
    have decided : compare held given = .eq ↔ (held == given) = true := by
      rw [compare_eq_iff_eq, beq_iff_eq]
    rw [holdsOfScalars, Operator.holdsOfEquality_eq_test form (.inl rfl) admitted decided]
    rfl
  case variant.variant.refl held given =>
    have decided : compare held given = .eq ↔ (held == given) = true := by
      rw [compare_eq_iff_eq, beq_iff_eq]
    rw [holdsOfScalars, Operator.holdsOfEquality_eq_test form (.inr rfl) admitted decided]
    rfl

/-- LIKE with the pattern of a clause is the clause's search in texts. -/
theorem matchesPattern_eq_ofBool
    (clause : Clause)
    (lowering : clause.lowersText = !clause.caseSensitive)
    {placement : Like.Placement}
    (placed : Like.Placement.ofOperator? clause.operator.normalize = some placement)
    {argument : String}
    (value : clause.value = .ofText argument)
    (content : String) :
    matchesPattern (loweredDatum clause.lowersText (some (.text content)))
        (clause.likePattern placement) =
      .ofBool (clause.holdsOfTexts clause.operator content argument) := by
  have notPattern : clause.operator ≠ .regex := by
    intro isRegex
    rw [isRegex] at placed
    cases placed
  rw [clause.holdsOfTexts_of_ne_regex notPattern lowering, loweredDatum, matchesPattern,
    likePattern_of_text value, String.toList_ofList, Like.isMatch_pattern_eq_holdsOfTexts placed]

/-- A scalar is among the lowered items of an operand just if it equals one of them. -/
theorem among_eq_ofBool
    (clause : Clause)
    (lowering : clause.lowersText = !clause.caseSensitive)
    {type : ValueType}
    {given : List Operand}
    (typed : ∀ item ∈ given, item.IsLeafOf type)
    {held : Scalar}
    (heldKind : held.kind = type.kind) :
    among (loweredDatum clause.lowersText (some held))
        ((given.map (Operand.loweredIf clause.lowersText)).map (·.datum?)) =
      .ofBool (given.any fun item => clause.holdsOfItems .eq (.scalar held) item) := by
  have equality :
      ∀ item ∈ given,
        compareData .equal (loweredDatum clause.lowersText (some held))
            (item.loweredIf clause.lowersText).datum? =
          .ofBool (clause.holdsOfItems .eq (.scalar held) item) := by
    intro item member
    obtain ⟨leaf, rfl, leafTyped⟩ := typed item member
    have sameKind : held.kind = leaf.kind := heldKind.trans leafTyped.kind_eq.symm
    have admitted : Operator.eq ∈ leaf.kind.operators := by
      cases leaf.kind <;> decide
    exact clause.compareData_eq_ofBool lowering rfl sameKind admitted
  rw [among, List.map_map, List.map_map, ← Truth.any_map_ofBool]
  exact congrArg Truth.any (List.map_congr_left equality)

/-- A row of a collection is among the items just if the item stored in it equals one. -/
theorem among_row_iff
    (clause : Clause)
    (lowering : clause.lowersText = !clause.caseSensitive)
    {type : ValueType}
    {given : List Operand}
    (typed : ∀ item ∈ given, item.IsLeafOf type)
    {stored : FieldValue}
    (present : stored = .missing ∨ ∃ held, stored = .scalar held ∧ held.kind = type.kind) :
    (among (loweredDatum clause.lowersText stored.datum?)
        ((given.map (Operand.loweredIf clause.lowersText)).map (·.datum?)) == .holds) =
      given.any fun item => clause.holdsOfItems .eq stored item := by
  rcases present with rfl | ⟨held, rfl, heldKind⟩
  · have notAmong := among_null_ne_holds
      ((given.map (Operand.loweredIf clause.lowersText)).map (·.datum?))
    have noneEqual :
        (given.any fun item => clause.holdsOfItems .eq .missing item) = false := by
      simp [holdsOfItems]
    rw [noneEqual, beq_eq_false_iff_ne]
    exact notAmong
  · rw [FieldValue.datum?, clause.among_eq_ofBool lowering typed heldKind, Bool.eq_iff_iff,
      beq_iff_eq, Truth.ofBool_eq_holds_iff]

/-! Set tests, on single values and on collections. -/

/-- A set test has a condition of its own, whatever the shape of the field. -/
theorem toSql_of_isSetTest
    {clause : Clause}
    (setTest : clause.operator.IsSetTest)
    (isList : clause.value.isList = true) :
    clause.toSql =
      .ok (clause.membershipCondition
        (match clause.shape with
          | .scalar => .member
          | .collection => .element)
        (clause.operator == .notIn) clause.value.items) := by
  obtain ⟨items, value⟩ := Operand.exists_items_of_isList isList
  unfold toSql
  rcases setTest with operator | operator <;> rw [operator, value] <;>
    cases clause.shape <;> rfl

theorem accepts_scalar_of_isSetTest
    {clause : Clause}
    (setTest : clause.operator.IsSetTest)
    (isList : clause.value.isList = true)
    (held : Scalar) :
    clause.accepts (.scalar held) =
      ((clause.operator == .notIn) !=
        clause.value.items.any fun item => clause.holdsOfItems .eq (.scalar held) item) := by
  obtain ⟨items, value⟩ := Operand.exists_items_of_isList isList
  rcases setTest with operator | operator
  · have positive : (Operator.isIn == Operator.notIn) = false := rfl
    simp [accepts, value, acceptsMember, operator, Operator.asMembership?,
      Operator.normalize, holdsOfAny, Operand.items, positive]
  · simp [accepts, value, acceptsMember, operator, Operator.asMembership?,
      Operator.normalize, holdsOfAny, Operand.items]

theorem accepts_collection_of_isSetTest
    {clause : Clause}
    (setTest : clause.operator.IsSetTest)
    (held : List FieldValue) :
    clause.accepts (.list held) =
      ((clause.operator == .notIn) != clause.holdsOfAny .eq held clause.value.items) := by
  rcases setTest with operator | operator
  · have positive : (Operator.isIn == Operator.notIn) = false := rfl
    simp [accepts, acceptsCollection, operator, Operator.normalize, positive]
  · simp [accepts, acceptsCollection, operator, Operator.normalize]

/-- Membership of the datum in a column, which is decided. -/
theorem evaluate_member
    {type : ValueType}
    {clause : Clause}
    (typed : clause.WellTyped type)
    {store : Store}
    {held : Scalar}
    (heldKind : held.kind = type.kind)
    (stored : store.column clause.path.parts = some held)
    (negated : Bool) :
    (clause.membershipCondition .member negated clause.value.items).evaluate store =
      .ofBool (negated !=
        clause.value.items.any fun item => clause.holdsOfItems .eq (.scalar held) item) := by
  by_cases isEmpty : clause.value.items = []
  · simp [membershipCondition, isEmpty, Condition.evaluate]
  · have lowering := clause.lowersText_of_wellTyped typed isEmpty
    have found := clause.among_eq_ofBool lowering typed.value_isOf heldKind
    simp only [membershipCondition, List.isEmpty_iff, isEmpty, ↓reduceIte, Condition.evaluate,
      Store.read, column, stored]
    rw [found, Truth.negatedIf_ofBool]

/-- The search of a relation for rows that are among the items. -/
theorem evaluate_element
    {type : ValueType}
    {clause : Clause}
    (typed : clause.WellTyped type)
    {store : Store}
    {held : List FieldValue}
    (present :
      ∀ item ∈ held, item = .missing ∨ ∃ scalar, item = .scalar scalar ∧ scalar.kind = type.kind)
    (stored : store.relation clause.path.parts = held.map (·.datum?))
    (negated : Bool) :
    (clause.membershipCondition .element negated clause.value.items).evaluate store =
      .ofBool (negated != clause.holdsOfAny .eq held clause.value.items) := by
  by_cases isEmpty : clause.value.items = []
  · have noneEqual : clause.holdsOfAny .eq held [] = false := by
      simp only [holdsOfAny, List.any_nil, List.any_eq_false]
      simp
    simp [membershipCondition, isEmpty, Condition.evaluate, noneEqual]
  · have lowering := clause.lowersText_of_wellTyped typed isEmpty
    have rows :
        (held.any fun item =>
            among (loweredDatum clause.lowersText item.datum?)
              ((clause.value.items.map (Operand.loweredIf clause.lowersText)).map (·.datum?)) ==
                .holds) =
          clause.holdsOfAny .eq held clause.value.items := by
      rw [holdsOfAny, Bool.eq_iff_iff, List.any_eq_true, List.any_eq_true]
      refine exists_congr fun item => and_congr_right fun member => ?_
      rw [clause.among_row_iff lowering typed.value_isOf (present item member)]
    simp only [membershipCondition, List.isEmpty_iff, isEmpty, ↓reduceIte, Condition.evaluate,
      Store.readRows, column, stored, List.any_map, Function.comp_def]
    rw [rows, Truth.negatedIf_ofBool]

/-! Clauses over single values, and clauses of any sort. -/

/-- A clause that is no set test compares single values. -/
theorem exists_given_of_wellTyped
    {type : ValueType}
    {clause : Clause}
    (typed : clause.WellTyped type)
    (notSetTest : ¬ clause.operator.IsSetTest) :
    clause.shape = .scalar ∧
      ∃ given, clause.value = .scalar given ∧ given.kind = type.kind := by
  have single : clause.value.isList = false := by
    rw [Bool.eq_false_iff, Ne, typed.isList_iff]
    exact notSetTest
  obtain ⟨given, value, givenTyped⟩ := typed.value_isOf.isLeafOf single
  refine ⟨?_, given, value, givenTyped.kind_eq⟩
  cases shape : clause.shape with
  | scalar =>
      rfl
  | collection =>
      exact absurd (typed.isSetTest_of_collection shape) notSetTest

/-- A condition has the truth value of a clause wherever the clause's field has a value. -/
def AgreesWith
    (clause : Clause)
    (kind : ValueKind)
    (condition : Condition) :
    Prop :=
  ∀ (store : Store) (value : FieldValue),
    value.Present kind clause.shape →
      store.Holds clause.path.parts value →
        condition.evaluate store = .ofBool (clause.accepts value)

theorem agreesWith_of_scalar
    {clause : Clause}
    (shape : clause.shape = .scalar)
    {kind : ValueKind}
    {condition : Condition}
    (agrees :
      ∀ (store : Store) (held : Scalar),
        held.kind = kind →
          store.column clause.path.parts = some held →
            condition.evaluate store = .ofBool (clause.accepts (.scalar held))) :
    clause.AgreesWith kind condition := by
  intro store value present stored
  rw [shape] at present
  cases present with
  | scalar heldKind =>
      exact agrees store _ heldKind stored

theorem agreesWith_compare
    {type : ValueType}
    {clause : Clause}
    (typed : clause.WellTyped type)
    (notSetTest : ¬ clause.operator.IsSetTest)
    {comparison : Comparison}
    (form : Comparison.ofOperator? clause.operator.normalize = some comparison) :
    ∃ condition, clause.toSql = .ok condition ∧ clause.AgreesWith type.kind condition := by
  obtain ⟨shape, given, value, givenKind⟩ := exists_given_of_wellTyped typed notSetTest
  have lowering := clause.lowersText_of_wellTyped typed (by simp [value, Operand.items])
  refine ⟨.compare clause.column comparison (clause.value.loweredIf clause.lowersText), ?_,
    agreesWith_of_scalar shape ?_⟩
  · simp [toSql, shape, value, scalarCondition, form]
  · intro store held heldKind stored
    have admitted : clause.operator ∈ given.kind.operators := givenKind ▸ typed.operator_mem
    rw [Condition.evaluate, Store.read, column, stored, value,
      clause.compareData_eq_ofBool lowering form (heldKind.trans givenKind.symm) admitted]
    simp [accepts, value]

theorem agreesWith_like
    {type : ValueType}
    {clause : Clause}
    (typed : clause.WellTyped type)
    (notSetTest : ¬ clause.operator.IsSetTest)
    (isText : type.kind = .text)
    (noComparison : Comparison.ofOperator? clause.operator.normalize = none)
    {placement : Like.Placement}
    (placed : Like.Placement.ofOperator? clause.operator.normalize = some placement) :
    ∃ condition, clause.toSql = .ok condition ∧ clause.AgreesWith type.kind condition := by
  obtain ⟨shape, given, value, givenKind⟩ := exists_given_of_wellTyped typed notSetTest
  have lowering := clause.lowersText_of_wellTyped typed (by simp [value, Operand.items])
  refine ⟨.like clause.column (clause.likePattern placement), ?_,
    agreesWith_of_scalar shape ?_⟩
  · simp [toSql, shape, value, scalarCondition, noComparison, placed]
  · intro store held heldKind stored
    rw [isText] at heldKind givenKind
    cases given <;> cases givenKind
    cases held <;> cases heldKind
    rw [Condition.evaluate, Store.read, column, stored,
      clause.matchesPattern_eq_ofBool lowering placed value]
    simp [accepts, value, holdsOfScalars]

theorem agreesWith_membership
    {type : ValueType}
    {clause : Clause}
    (typed : clause.WellTyped type)
    (setTest : clause.operator.IsSetTest) :
    ∃ condition, clause.toSql = .ok condition ∧ clause.AgreesWith type.kind condition := by
  have isList := typed.isList_iff.mpr setTest
  refine ⟨_, toSql_of_isSetTest setTest isList, ?_⟩
  intro store value present stored
  cases shape : clause.shape with
  | scalar =>
      rw [shape] at present
      cases present with
      | scalar heldKind =>
          rw [accepts_scalar_of_isSetTest setTest isList]
          exact evaluate_member typed heldKind stored _
  | collection =>
      rw [shape] at present
      cases present with
      | collection items =>
          rw [accepts_collection_of_isSetTest setTest]
          exact evaluate_element typed items stored _

/-- A well-typed clause agrees with its condition, which only pattern searches lack. -/
theorem exists_agreesWith
    {type : ValueType}
    {clause : Clause}
    (typed : clause.WellTyped type)
    (notPattern : clause.operator ≠ .regex) :
    ∃ condition, clause.toSql = .ok condition ∧ clause.AgreesWith type.kind condition := by
  by_cases setTest : clause.operator.IsSetTest
  · exact agreesWith_membership typed setTest
  · rcases Operator.cases_of_mem_operators typed.operator_mem with
      isSetTest | isPattern | ⟨comparison, form⟩ | ⟨isText, noComparison, placement, placed⟩
    · exact absurd isSetTest setTest
    · exact absurd isPattern notPattern
    · exact agreesWith_compare typed setTest form
    · exact agreesWith_like typed setTest isText noComparison placed

/-- A pattern search has no condition. -/
theorem toSql_of_regex
    {type : ValueType}
    {clause : Clause}
    (typed : clause.WellTyped type)
    (isPattern : clause.operator = .regex) :
    clause.toSql = .error (.invalidOperator .regex "SQL") := by
  have notSetTest : ¬ clause.operator.IsSetTest := by
    intro setTest
    exact setTest.ne_regex isPattern
  obtain ⟨shape, given, value, -⟩ := exists_given_of_wellTyped typed notSetTest
  rw [toSql, shape, value, isPattern]
  simp [scalarCondition, isPattern, Operator.normalize, Comparison.ofOperator?,
    Like.Placement.ofOperator?]

/-- Only a pattern search is not written as SQL. -/
theorem exists_toFragment_iff
    {type : ValueType}
    {clause : Clause}
    (typed : clause.WellTyped type) :
    (∃ fragment, clause.toFragment = .ok fragment) ↔ clause.operator ≠ .regex := by
  constructor
  · rintro ⟨fragment, written⟩ isPattern
    obtain ⟨condition, lowered, -⟩ := toFragment_eq_ok.mp written
    rw [toSql_of_regex typed isPattern] at lowered
    cases lowered
  · intro notPattern
    obtain ⟨condition, lowered, -⟩ := exists_agreesWith typed notPattern
    exact ⟨_, toFragment_eq_ok.mpr ⟨condition, lowered, rfl⟩⟩

/-- The text of a well-typed clause, with its parameters, agrees with the clause. -/
theorem evaluate?_of_toFragment
    {type : ValueType}
    {clause : Clause}
    (typed : clause.WellTyped type)
    {fragment : Fragment}
    (written : clause.toFragment = .ok fragment)
    {store : Store}
    {value : FieldValue}
    (present : value.Present type.kind clause.shape)
    (stored : store.Holds clause.path.parts value) :
    fragment.evaluate? store = some (.ofBool (clause.accepts value)) := by
  have notPattern := (exists_toFragment_iff typed).mp ⟨fragment, written⟩
  obtain ⟨condition, lowered, agrees⟩ := exists_agreesWith typed notPattern
  obtain ⟨other, otherLowered, rfl⟩ := toFragment_eq_ok.mp written
  rw [lowered] at otherLowered
  cases otherLowered
  rw [evaluate?_of_toSql lowered, agrees store value present stored]

end Clause

namespace Compiler

/--
Evaluation in memory and in SQL agree. A compiled clause is written as SQL just if
it is no pattern search. For every value that is present in the field, the text with
its parameters is read as a condition of SQL, and the condition holds in a database
with this value just if the clause accepts it.
-/
theorem compile_agrees_with_sql
    (schema : EntitySchema)
    (settings : CaseSettings)
    (criterion : Criterion)
    (accepted : Key.wellFormed criterion.key = true)
    (clause : Clause)
    (compiled :
      (Compiler.ofSchema schema).compile { settings := settings } criterion = .ok clause) :
    ∃ trail type,
      (FieldType.entity schema).Route criterion.segments trail (.value type) ∧
        ((∃ fragment, clause.toFragment = .ok fragment) ↔ clause.operator ≠ .regex) ∧
          (clause.operator = .regex →
            clause.toFragment = .error (.invalidOperator .regex "SQL")) ∧
            ∀ fragment,
              clause.toFragment = .ok fragment →
                ∀ (store : Store) (value : FieldValue),
                  value.Present type.kind clause.shape →
                    store.Holds clause.path.parts value →
                      ∃ truth,
                        fragment.evaluate? store = some truth ∧
                          (truth = .holds ↔ clause.accepts value = true) := by
  obtain ⟨passed, context, found, route, built⟩ :=
    exists_route_of_compile_eq_ok criterion accepted compiled
  obtain ⟨type, declared, typed⟩ := wellTyped_of_compileFound built
  rw [declared] at route
  refine ⟨passed ++ [found], type, route, Clause.exists_toFragment_iff typed, ?_, ?_⟩
  · intro isPattern
    rw [Clause.toFragment, Clause.toSql_of_regex typed isPattern]
    rfl
  · intro fragment written store value present stored
    exact ⟨_, Clause.evaluate?_of_toFragment typed written present stored,
      Truth.ofBool_eq_holds_iff _⟩

/-- Addresses with a line other than `x` and a missing one are found in both ways. -/
theorem compile_agrees_with_sql_addressLines :
    ∃ clause fragment,
      (Compiler.ofSchema Record.Address.schema).compile { settings := {} }
          ⟨"LINES", .ne, .single "x"⟩ = .ok clause ∧
        clause.toFragment = .ok fragment ∧
          fragment.text = "NOT EXISTS (SELECT 1 FROM \"lines\" WHERE \"value\" IN (?))" ∧
            fragment.evaluate? {
              column := fun _ => none
              relation := fun _ => [some (.text "y"), none]
            } = some .holds := by
  let clause : Clause := {
    path := ⟨[], "lines"⟩
    operator := .notIn
    value := .list [.ofText "x"]
    shape := .collection
  }
  let condition : Condition :=
    .element { parts := ["lines"], lowered := false } true [.ofText "x"]
  have written : clause.toFragment = .ok condition.toFragment := rfl
  refine ⟨clause, condition.toFragment, rfl, written, rfl, ?_⟩
  obtain ⟨trail, type, route, -, -, agrees⟩ :=
    compile_agrees_with_sql Record.Address.schema {} ⟨"LINES", .ne, .single "x"⟩ (by decide)
      clause rfl
  have split : Key.segments "LINES" = ["LINES"] := by decide
  have isText : type.kind = .text := by
    rw [Criterion.segments, split] at route
    cases route with
    | through denotes rest =>
        cases denotes
        cases rest
        rfl
  have present :
      FieldValue.Present type.kind .collection (.list [.scalar (.text "y"), .missing]) := by
    rw [isText]
    refine .collection ?_
    intro item member
    fin_cases member
    · exact .inr ⟨_, rfl, rfl⟩
    · exact .inl rfl
  let store : Store := {
    column := fun _ => none
    relation := fun _ => [some (.text "y"), none]
  }
  have stored : store.Holds ["lines"] (.list [.scalar (.text "y"), .missing]) := rfl
  obtain ⟨truth, evaluated, holds⟩ := agrees _ written store _ present stored
  rw [evaluated, holds.mpr (by decide)]

end Compiler

end FieldSearch
