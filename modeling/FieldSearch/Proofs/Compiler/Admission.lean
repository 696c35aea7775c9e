import FieldSearch.Proofs.Strategy.Standard

namespace FieldSearch

/-!
# Admission of operators

With the standard strategies, the operator of a search is admitted by the kind
of the field in one of its forms, or it is refused, whatever the value that was
read. An operator that is not documented for the kind is refused with a single
value. With a list of values it is refused, too, unless it is the alias of
equality: only the form of the alias is looked up, and every kind admits it.
-/

namespace Compiler

section Found

variable
  {root : FieldType}
  {settings : CaseSettings}
  {operator form : Operator}
  {value : RawValue}
  {passed : List Attribute}
  {context : FieldType}
  {found : Attribute}
  {type : ValueType}
  {operand : Operand}

/-- At an attribute of a value type, an admitted form of the operator makes the clause. -/
theorem compileFound_of_form
    (declared : found.declared = .value type)
    (read :
      (Compiler.selectedStrategy { root := root } { settings := settings } passed context found
        type).readRaw type value = .ok operand)
    (isForm : operator.formFor? (context.fieldShape found.name) operand.isList = some form)
    (admitted : form ∈ type.kind.operators)
    (notPattern : form ≠ .regex) :
    Compiler.compileFound { root := root } { settings := settings } operator value passed context
        found =
      .ok (.ofForm type.kind (caseSensitiveAt { settings := settings } passed found)
        (context.fieldShape found.name) (pathTo passed found) form operand) := by
  rw [compileFound_of_readRaw_eq_ok _ _ operator value passed context declared read]
  exact Strategy.fit_build_of_form _ _ isForm admitted notPattern

/-- Without an admitted form, the operator is refused by the name it was given. -/
theorem compileFound_of_refused
    (declared : found.declared = .value type)
    (read :
      (Compiler.selectedStrategy { root := root } { settings := settings } passed context found
        type).readRaw type value = .ok operand)
    (refused :
      ∀ form, operator.formFor? (context.fieldShape found.name) operand.isList = some form →
        form ∉ type.kind.operators) :
    Compiler.compileFound { root := root } { settings := settings } operator value passed context
        found =
      .error (.invalidOperator operator
        ((context.fieldShape found.name).refusedKind type.kind)) := by
  rw [compileFound_of_readRaw_eq_ok _ _ operator value passed context declared read]
  exact Strategy.fit_build_of_refused _ _ refused

end Found

end Compiler

namespace Operator

/-- The operators with a set test are the equality tests, the alias and the set tests. -/
theorem cases_of_asMembership?
    {operator form : Operator}
    (isForm : operator.asMembership? = some form) :
    operator = .eq ∨ operator = .ne ∨ operator = .is ∨ operator.IsSetTest := by
  cases operator <;> simp [asMembership?, normalize, IsSetTest] at isForm ⊢

/-- An operator that a kind does not admit has no admitted form, but for the alias on lists. -/
theorem formFor?_not_admitted
    {kind : ValueKind}
    {operator : Operator}
    (undocumented : operator ∉ kind.operators)
    {isList : Bool}
    (notAliasOfList : operator = .is → isList = false)
    (form : Operator)
    (isForm : operator.formFor? .scalar isList = some form) :
    form ∉ kind.operators := by
  have notSetTest : ¬ operator.IsSetTest :=
    fun setTest => undocumented (setTest.mem_operators kind)
  cases isList with
  | false =>
      obtain rfl : operator = form := by
        simpa [formFor?, notSetTest] using isForm
      exact undocumented
  | true =>
      -- Equality and inequality have a form as well, but every kind admits them itself.
      rw [formFor?_list] at isForm
      rcases cases_of_asMembership? isForm with rfl | rfl | rfl | setTest
      · exact absurd kind.equality_mem_operators.1 undocumented
      · exact absurd kind.equality_mem_operators.2 undocumented
      · cases notAliasOfList rfl
      · exact absurd setTest notSetTest

end Operator

namespace Compiler

/--
An operator that is not documented for the kind of a field is refused for that
kind once the value has been read, unless it is the alias of equality and the
value is a list. In that case it makes a set test, although with a single value
it would be refused.
-/
theorem compile_refuses_undocumented
    (schema : EntitySchema)
    (settings : CaseSettings)
    (key : String)
    (accepted : Key.wellFormed key = true)
    (passed : List Attribute)
    (context : FieldType)
    (found : Attribute)
    (leads : LeadsTo (.entity schema) key passed context found)
    (type : ValueType)
    (declared : found.declared = .value type)
    (scalarShape : context.fieldShape found.name = .scalar)
    (operator : Operator)
    (undocumented : operator ∉ type.kind.operators)
    (value : RawValue)
    (operand : Operand)
    (read :
      ((Compiler.ofSchema schema).selectedStrategy { settings := settings } passed context found
        type).readRaw type value = .ok operand) :
    ((operator ≠ .is ∨ value.isList = false) →
      (Compiler.ofSchema schema).compile { settings := settings } ⟨key, operator, value⟩ =
        .error (.invalidOperator operator type.kind.name)) ∧
      (operator = .is →
        value.isList = true →
          ∃ clause,
            (Compiler.ofSchema schema).compile { settings := settings } ⟨key, operator, value⟩ =
                .ok clause ∧
              clause.operator = .isIn ∧ clause.value = operand) := by
  have sameForm : operand.isList = value.isList := by
    rw [selectedStrategy, scalarShape] at read
    exact Strategy.isList_of_standard_readRaw read
  rw [(Compiler.ofSchema schema).compile_of_leadsTo _ accepted leads]
  constructor
  · intro notAliasOfList
    have refused :
        ∀ form, operator.formFor? (context.fieldShape found.name) operand.isList = some form →
          form ∉ type.kind.operators := by
      rw [scalarShape, sameForm]
      refine Operator.formFor?_not_admitted undocumented ?_
      intro isAlias
      exact notAliasOfList.resolve_left (absurd isAlias)
    have outcome := compileFound_of_refused declared read refused
    rw [scalarShape] at outcome
    exact outcome
  · rintro rfl isList
    have setForm :
        Operator.is.formFor? (context.fieldShape found.name) operand.isList = some .isIn := by
      rw [sameForm, isList, Operator.formFor?_list]
      rfl
    have setTest : Operator.isIn.IsSetTest := .inl rfl
    refine ⟨_, compileFound_of_form declared read setForm (setTest.mem_operators type.kind)
      (by decide), rfl, ?_⟩
    obtain ⟨items, rfl⟩ := Operand.exists_items_of_isList (sameForm.trans isList)
    simp [Clause.ofForm, setTest, Operand.intoList]

/-- The population of a country is no text to search in, but is a member of a list by its alias. -/
theorem compile_refuses_undocumented_population :
    (Compiler.ofSchema Record.Country.schema).compile { settings := {} }
        ⟨"population", .contains, .list ["1", "2"]⟩ =
        .error (.invalidOperator .contains "Integer") ∧
      ∃ clause,
        (Compiler.ofSchema Record.Country.schema).compile { settings := {} }
            ⟨"population", .is, .list ["1", "2"]⟩ = .ok clause ∧
          clause.operator = .isIn ∧
            clause.value = .list [.scalar (.integer 1), .scalar (.integer 2)] := by
  have accepted : Key.wellFormed "population" = true := by decide
  let country : FieldType := .entity Record.Country.schema
  let population : Attribute := ⟨"population", Record.typeOf .integer, none⟩
  have split : Key.segments "population" = [] ++ ["population"] := by decide
  have leads : LeadsTo country "population" [] country population :=
    leadsTo_of_segments split (.stay country) rfl
  constructor
  · exact (compile_refuses_undocumented Record.Country.schema {} "population" accepted [] country
      population leads (.ofKind .integer) rfl rfl .contains (by decide) (.list ["1", "2"]) _
      rfl).1 (.inl (by decide))
  · exact (compile_refuses_undocumented Record.Country.schema {} "population" accepted [] country
      population leads (.ofKind .integer) rfl rfl .is (by decide) (.list ["1", "2"]) _
      rfl).2 rfl rfl

end Compiler

end FieldSearch
