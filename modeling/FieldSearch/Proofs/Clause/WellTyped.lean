import FieldSearch.Proofs.Compiler.Resolution
import FieldSearch.Proofs.Value.Typing
import FieldSearch.Record.Developer

namespace FieldSearch

open Outcomes

/-!
# Well-typed clauses

What every clause that is compiled under the standard strategies satisfies, told
from the declared type of its field: the form and the type of its value, the
operators that the type's kind admits, and when a clause is about a collection,
holds a pattern or ignores letter case. Each strategy builds well-typed clauses
from values of the type, so the whole compilation does.
-/

/-- The operators that values of a kind are documented to admit. -/
def ValueKind.operators : ValueKind → List Operator
  | .text => [.eq, .ne, .startsWith, .endsWith, .contains, .regex, .isIn, .notIn]
  | .integer => [.eq, .ne, .gt, .gte, .lt, .lte, .isIn, .notIn]
  | .decimal => [.eq, .ne, .gt, .gte, .lt, .lte, .isIn, .notIn]
  | .temporal => [.eq, .ne, .gt, .gte, .lt, .lte, .isIn, .notIn, .before, .after]
  | .enumeration => [.eq, .ne, .isIn, .notIn]
  | .boolean => [.eq, .ne, .is, .isIn, .notIn]

/-- Values of every kind are tested for equality. -/
theorem ValueKind.equality_mem_operators (kind : ValueKind) :
    .eq ∈ kind.operators ∧ .ne ∈ kind.operators := by
  cases kind <;> decide

/-- Patterns are searched for in texts alone. -/
theorem ValueKind.regex_mem_operators_iff (kind : ValueKind) :
    .regex ∈ kind.operators ↔ kind = .text := by
  cases kind <;> decide

/-- A clause is well typed for a field of a declared type. -/
structure Clause.WellTyped (type : ValueType) (clause : Clause) : Prop where
  /-- The value is one leaf or a flat list of leaves, all of the type. -/
  value_isOf : clause.value.IsOf type
  /-- Lists are what set tests are about. -/
  isList_iff : clause.value.isList = true ↔ clause.operator.IsSetTest
  /-- Collections are searched by set tests alone. -/
  isSetTest_of_collection : clause.shape = .collection → clause.operator.IsSetTest
  /-- Pattern searches hold a pattern, and other clauses hold none. -/
  pattern_isSome_iff : clause.pattern.isSome = true ↔ clause.operator = .regex
  /-- The pattern is the value of the clause, which is a text. -/
  value_of_pattern :
    ∀ pattern, clause.pattern = some pattern →
      type.kind = .text ∧ clause.value = .ofText pattern.source
  /-- The kind of the type admits the operator. -/
  operator_mem : clause.operator ∈ type.kind.operators
  /-- Letter case is ignored in texts alone. -/
  kind_of_anyCase : clause.caseSensitive = false → type.kind = .text

namespace Clause.WellTyped

/-- The treatment of letter case is free in clauses over texts. -/
theorem withCaseSensitive
    {type : ValueType}
    {clause : Clause}
    (typed : clause.WellTyped type)
    (isText : type.kind = .text)
    (caseSensitive : Bool) :
    { clause with caseSensitive := caseSensitive }.WellTyped type :=
  { typed with kind_of_anyCase := fun _ => isText }

/-- A set test may be about a collection. -/
theorem withCollection
    {type : ValueType}
    {clause : Clause}
    (typed : clause.WellTyped type)
    (setTest : clause.operator.IsSetTest) :
    { clause with shape := .collection }.WellTyped type :=
  { typed with isSetTest_of_collection := fun _ => setTest }

end Clause.WellTyped

theorem Operator.IsSetTest.ne_regex
    {operator : Operator}
    (setTest : operator.IsSetTest) :
    operator ≠ .regex := by
  rintro rfl
  rcases setTest with same | same <;> cases same

namespace Strategy

/-- Plain clauses on values of a type are well typed, patterns apart. -/
theorem wellTyped_of_scalarClause
    {type : ValueType}
    {kind : String}
    {admitted : Operator → Bool}
    (documented : ∀ operator, admitted operator = true → operator ∈ type.kind.operators)
    {target : FieldPath}
    {operator : Operator}
    {value : Operand}
    (typed : value.IsOf type)
    {clause : Clause}
    (notPattern : type.kind = .text → operator ≠ .regex)
    (built : scalarClause kind admitted target operator value = .ok clause) :
    clause.WellTyped type := by
  rcases scalarClause_eq_ok built with
    ⟨membership, form, isAdmitted, rfl⟩ | ⟨notSetTest, single, isAdmitted, rfl⟩
  · have setTest := Operator.isSetTest_of_asMembership? form
    exact {
      value_isOf := typed.intoList
      isList_iff := by simp [setTest]
      isSetTest_of_collection := fun _ => setTest
      pattern_isSome_iff := by simp [setTest.ne_regex]
      value_of_pattern := by simp
      operator_mem := documented membership isAdmitted
      kind_of_anyCase := by simp
    }
  · have operatorIsDocumented := documented operator isAdmitted
    have isNoPattern : operator ≠ .regex := by
      rintro rfl
      exact notPattern ((ValueKind.regex_mem_operators_iff type.kind).mp operatorIsDocumented)
        rfl
    exact {
      value_isOf := typed
      isList_iff := by simp [single, notSetTest]
      isSetTest_of_collection := by simp
      pattern_isSome_iff := by simp [isNoPattern]
      value_of_pattern := by simp
      operator_mem := operatorIsDocumented
      kind_of_anyCase := by simp
    }

theorem wellTyped_of_patternClause
    {type : ValueType}
    (isText : type.kind = .text)
    {caseSensitive : Bool}
    {target : FieldPath}
    {value : Operand}
    (typed : value.IsOf type)
    {clause : Clause}
    (built : patternClause caseSensitive target value = .ok clause) :
    clause.WellTyped type := by
  obtain ⟨pattern, single, compiled, rfl⟩ := patternClause_eq_ok built
  obtain ⟨content, rfl⟩ : ∃ content, value = .ofText content := by
    obtain ⟨leaf, rfl, leafTyped⟩ := typed.isLeafOf single
    have leafIsText := leafTyped.kind_eq.trans isText
    cases leaf <;> cases leafIsText
    exact ⟨_, rfl⟩
  have source : pattern.source = content := (eq_of_compileWith? compiled).1
  exact {
    value_isOf := typed
    isList_iff := by simp [Operator.IsSetTest, single]
    isSetTest_of_collection := by simp
    pattern_isSome_iff := by simp
    value_of_pattern := by
      rintro other same
      cases same
      exact ⟨isText, by rw [source]⟩
    operator_mem := by simp [isText, ValueKind.operators]
    kind_of_anyCase := fun _ => isText
  }

/-- Except for texts, the standard strategies build plain clauses on documented operators. -/
theorem standard_build_eq_scalarClause
    {kind : ValueKind}
    (notText : kind ≠ .text)
    (caseSensitive : Bool) :
    ∃ admitted : Operator → Bool,
      (∀ operator, admitted operator = true ↔ operator ∈ kind.operators) ∧
        (StrategyTable.standard.scalar kind caseSensitive).build =
          scalarClause kind.name admitted := by
  cases kind with
  | text =>
      exact absurd rfl notText
  | integer | decimal | boolean | temporal | enumeration =>
      refine ⟨_, ?_, rfl⟩
      intro operator
      cases operator <;> decide

/-- The operators that are checked for texts are the documented ones. -/
theorem isText_iff_mem_operators (operator : Operator) :
    operator.isText = true ↔ operator ∈ ValueKind.text.operators := by
  cases operator <;> decide

theorem standard_build_text (caseSensitive : Bool) :
    (StrategyTable.standard.scalar .text caseSensitive).build = textClause caseSensitive := by
  cases caseSensitive <;> rfl

/--
The standard strategies build pattern searches in texts, and otherwise plain clauses
on documented operators, with a treatment of letter case of their own in texts.
-/
theorem standard_build_eq_ok
    {kind : ValueKind}
    {caseSensitive : Bool}
    {target : FieldPath}
    {operator : Operator}
    {value : Operand}
    {clause : Clause}
    (built :
      (StrategyTable.standard.scalar kind caseSensitive).build target operator value =
        .ok clause) :
    (kind = .text ∧
      operator = .regex ∧
        patternClause caseSensitive target value = .ok clause) ∨
      ∃ admitted plain counts,
        (∀ other : Operator, admitted other = true ↔ other ∈ kind.operators) ∧
          (kind = .text → operator ≠ .regex) ∧
            scalarClause kind.name admitted target operator value = .ok plain ∧
              clause = { plain with caseSensitive := counts } ∧
                (counts = plain.caseSensitive ∨ kind = .text) := by
  by_cases isText : kind = .text
  · subst isText
    rw [standard_build_text] at built
    rcases textClause_eq_ok built with
      ⟨isPattern, patternBuilt⟩ | ⟨notPattern, plain, plainBuilt, rfl⟩
    · exact .inl ⟨rfl, isPattern, patternBuilt⟩
    · exact .inr ⟨Operator.isText, plain, caseSensitive, isText_iff_mem_operators,
        fun _ => notPattern, plainBuilt, rfl, .inr rfl⟩
  · obtain ⟨admitted, documented, builds⟩ := standard_build_eq_scalarClause isText caseSensitive
    rw [builds] at built
    exact .inr ⟨admitted, clause, clause.caseSensitive, documented, fun is => absurd is isText,
      built, rfl, .inl rfl⟩

/-- The standard strategy for a type's kind builds well-typed clauses. -/
theorem wellTyped_of_standard_build
    {type : ValueType}
    {caseSensitive : Bool}
    {target : FieldPath}
    {operator : Operator}
    {value : Operand}
    (typed : value.IsOf type)
    {clause : Clause}
    (built :
      (StrategyTable.standard.scalar type.kind caseSensitive).build target operator value =
        .ok clause) :
    clause.WellTyped type := by
  rcases standard_build_eq_ok built with
    ⟨isText, -, patternBuilt⟩ |
      ⟨admitted, plain, counts, documented, notPattern, plainBuilt, rfl, isPlain⟩
  · exact wellTyped_of_patternClause isText typed patternBuilt
  · have plainTyped := wellTyped_of_scalarClause (fun other => (documented other).mp) typed
      notPattern plainBuilt
    rcases isPlain with rfl | isText
    · exact plainTyped
    · exact plainTyped.withCaseSensitive isText counts

/-- On lists only set tests are built. -/
theorem isSetTest_of_scalarClause
    {kind : String}
    {admitted : Operator → Bool}
    {target : FieldPath}
    {operator : Operator}
    {value : Operand}
    (isList : value.isList = true)
    {clause : Clause}
    (built : scalarClause kind admitted target operator value = .ok clause) :
    clause.operator.IsSetTest := by
  rcases scalarClause_eq_ok built with ⟨_, form, -, rfl⟩ | ⟨-, single, -⟩
  · exact Operator.isSetTest_of_asMembership? form
  · rw [isList] at single
    cases single

/-- The standard strategies, too, build only set tests on lists. -/
theorem isSetTest_of_standard_build
    {type : ValueType}
    {caseSensitive : Bool}
    {target : FieldPath}
    {operator : Operator}
    {value : Operand}
    (isList : value.isList = true)
    {clause : Clause}
    (built :
      (StrategyTable.standard.scalar type.kind caseSensitive).build target operator value =
        .ok clause) :
    clause.operator.IsSetTest := by
  rcases standard_build_eq_ok built with
    ⟨-, -, patternBuilt⟩ | ⟨admitted, plain, counts, -, -, plainBuilt, rfl, -⟩
  · obtain ⟨_, single, -⟩ := patternClause_eq_ok patternBuilt
    rw [isList] at single
    cases single
  · have setTest := isSetTest_of_scalarClause isList plainBuilt
    exact setTest

/-- The standard strategy, fitted to the shape of a field, builds well-typed clauses. -/
theorem wellTyped_of_standard_fit
    {type : ValueType}
    {caseSensitive : Bool}
    {shape : FieldShape}
    {raw : RawValue}
    {operand : Operand}
    (read :
      (StrategyTable.fit (StrategyTable.standard.scalar type.kind caseSensitive)
        shape).readRaw type raw = .ok operand)
    {target : FieldPath}
    {operator : Operator}
    {clause : Clause}
    (built :
      (StrategyTable.fit (StrategyTable.standard.scalar type.kind caseSensitive)
        shape).build target operator operand = .ok clause) :
    clause.WellTyped type := by
  obtain ⟨plain, plainRead, isPlain⟩ := readRaw_fit read
  have typed : operand.IsOf type := by
    have plainTyped := isOf_of_standard_readRaw plainRead
    rcases isPlain with rfl | rfl
    · exact plainTyped
    · exact plainTyped.intoList
  cases shape with
  | scalar =>
      exact wellTyped_of_standard_build typed built
  | collection =>
      obtain ⟨membership, inner, form, innerBuilt, rfl⟩ := collection_build_eq_ok built
      have setTest := isSetTest_of_standard_build (Operand.isList_intoList operand) innerBuilt
      exact (wellTyped_of_standard_build typed.intoList innerBuilt).withCollection setTest

end Strategy

namespace Compiler

/-- With the standard strategies alone, what is compiled at an attribute is well typed. -/
theorem wellTyped_of_compileFound
    {root : FieldType}
    {settings : CaseSettings}
    {operator : Operator}
    {value : RawValue}
    {passed : List Attribute}
    {context : FieldType}
    {found : Attribute}
    {clause : Clause}
    (compiled :
      Compiler.compileFound { root := root } { settings := settings } operator value
        passed context found = .ok clause) :
    ∃ type, found.declared = .value type ∧ clause.WellTyped type := by
  obtain ⟨type, operand, declared, read, built⟩ := compileFound_eq_ok compiled
  exact ⟨type, declared, Strategy.wellTyped_of_standard_fit read built⟩

/--
Every compiled clause is well typed for the field that its key denotes, whose
declared type is a value type.
-/
theorem compile_wellTyped
    (schema : EntitySchema)
    (settings : CaseSettings)
    (criterion : Criterion)
    (accepted : Key.wellFormed criterion.key = true)
    (clause : Clause)
    (compiled :
      (Compiler.ofSchema schema).compile { settings := settings } criterion = .ok clause) :
    ∃ trail type,
      (FieldType.entity schema).Route criterion.segments trail (.value type) ∧
        clause.WellTyped type := by
  obtain ⟨passed, context, found, route, built⟩ :=
    exists_route_of_compile_eq_ok criterion accepted compiled
  obtain ⟨type, declared, typed⟩ := wellTyped_of_compileFound built
  rw [declared] at route
  exact ⟨passed ++ [found], type, route, typed⟩

/-- A search for the address lines other than a given one is a well-typed set test. -/
theorem compile_wellTyped_addressLines :
    ∃ clause,
      (Compiler.ofSchema Record.Address.schema).compile { settings := {} }
          ⟨"LINES", .ne, .single "x"⟩ = .ok clause ∧
        clause.operator = .notIn ∧
          ∃ trail type,
            (FieldType.entity Record.Address.schema).Route (Key.segments "LINES") trail
                (.value type) ∧
              clause.WellTyped type := by
  refine ⟨{
    path := ⟨[], "lines"⟩
    operator := .notIn
    value := .list [.ofText "x"]
    shape := .collection
  }, rfl, rfl, ?_⟩
  exact compile_wellTyped Record.Address.schema {} ⟨"LINES", .ne, .single "x"⟩ (by decide) _ rfl

end Compiler

end FieldSearch
