import FieldSearch.Proofs.Clause.Comparison
import FieldSearch.Proofs.Compiler.Admission

namespace FieldSearch

/-!
# Spellings of equality tests

Equality with a token can be asked for with an equality operator or with its set
form, and with the token alone or in a list of its own. With the standard
strategies the four searches are one: all fail with the same error, or they make
clauses that agree on every value that is comparable. Only the clause of the
equality operator and the single token can look different from the others, and
it does not for a collection.
-/

namespace Operator.EqualityForms

variable {equality membership : Operator}

theorem isSetTest
    (forms : equality.EqualityForms membership) :
    membership.IsSetTest := by
  cases forms
  · exact .inl rfl
  · exact .inr rfl

theorem not_isSetTest
    (forms : equality.EqualityForms membership) :
    ¬ equality.IsSetTest := by
  cases forms <;> decide

theorem asMembership?_eq
    (forms : equality.EqualityForms membership) :
    equality.asMembership? = some membership := by
  cases forms <;> rfl

theorem mem_operators
    (forms : equality.EqualityForms membership)
    (kind : ValueKind) :
    equality ∈ kind.operators := by
  cases forms
  · exact kind.equality_mem_operators.1
  · exact kind.equality_mem_operators.2

theorem ne_regex
    (forms : equality.EqualityForms membership) :
    equality ≠ .regex := by
  cases forms <;> decide

end Operator.EqualityForms

namespace Clause

/-- Set tests make the same clause of a value and of the list that it is made. -/
theorem ofForm_intoList
    {form : Operator}
    (setTest : form.IsSetTest)
    (kind : ValueKind)
    (caseSensitive : Bool)
    (shape : FieldShape)
    (target : FieldPath)
    (value : Operand) :
    Clause.ofForm kind caseSensitive shape target form value.intoList =
      Clause.ofForm kind caseSensitive shape target form value := by
  simp [ofForm, setTest]

/-- The clause of an equality test on a single value, and that of its set form, agree. -/
theorem ofForm_accepts
    {equality membership : Operator}
    (forms : equality.EqualityForms membership)
    (kind : ValueKind)
    (caseSensitive : Bool)
    (shape : FieldShape)
    (target : FieldPath)
    (given : Scalar)
    {held : FieldValue}
    (comparable : held.ComparableWith given.kind) :
    (Clause.ofForm kind caseSensitive shape target equality (.scalar given)).accepts held =
      (Clause.ofForm kind caseSensitive shape target membership (.scalar given)).accepts held := by
  let clause := Clause.ofForm kind caseSensitive shape target equality (.scalar given)
  have plain : clause = { clause with operator := equality, value := .scalar given } := by
    simp [clause, ofForm, forms.not_isSetTest]
  have set :
      Clause.ofForm kind caseSensitive shape target membership (.scalar given) =
        { clause with operator := membership, value := .list [.scalar given] } := by
    simp [clause, ofForm, forms.isSetTest, Operand.intoList]
  change clause.accepts held = _
  rw [plain, set]
  exact clause.accepts_equalityForms forms given comparable

end Clause

namespace Compiler

/-- An operator on a token and the set form on a list of it, which have the same clause. -/
theorem compileFound_asSet
    {root : FieldType}
    {settings : CaseSettings}
    {operator membership : Operator}
    {passed : List Attribute}
    {context : FieldType}
    {found : Attribute}
    {type : ValueType}
    (declared : found.declared = .value type)
    (setTest : membership.IsSetTest)
    {value : RawValue}
    {operand : Operand}
    (read :
      (Compiler.selectedStrategy { root := root } { settings := settings } passed context found
        type).readRaw type value = .ok operand)
    (isForm :
      operator.formFor? (context.fieldShape found.name) operand.isList = some membership) :
    Compiler.compileFound { root := root } { settings := settings } operator value passed context
        found =
      .ok (.ofForm type.kind (caseSensitiveAt { settings := settings } passed found)
        (context.fieldShape found.name) (pathTo passed found) membership operand.intoList) := by
  rw [compileFound_of_form declared read isForm (setTest.mem_operators type.kind)
    setTest.ne_regex, Clause.ofForm_intoList setTest]

/--
The spellings of an equality test are one search. An equality operator or its set
form, on a token or on the list of that token, fail with the same error, or they
make clauses that agree on every value which is missing, a list or a comparable
scalar. The set form and the list make the same clause, and of a field that is a
collection all four do.
-/
theorem compile_equality_spellings
    (schema : EntitySchema)
    (settings : CaseSettings)
    (key : String)
    (accepted : Key.wellFormed key = true)
    (passed : List Attribute)
    (context : FieldType)
    (found : Attribute)
    (leads : LeadsTo (.entity schema) key passed context found)
    (type : ValueType)
    (declared : found.declared = .value type)
    (equality membership : Operator)
    (forms : equality.EqualityForms membership)
    (token : String) :
    (∃ failure,
      ∀ operator ∈ [equality, membership],
        ∀ value ∈ [RawValue.single token, RawValue.list [token]],
          (Compiler.ofSchema schema).compile { settings := settings } ⟨key, operator, value⟩ =
            .error failure) ∨
      ∃ plain clause,
        (Compiler.ofSchema schema).compile { settings := settings }
            ⟨key, equality, .single token⟩ = .ok plain ∧
          (Compiler.ofSchema schema).compile { settings := settings }
              ⟨key, equality, .list [token]⟩ = .ok clause ∧
            (Compiler.ofSchema schema).compile { settings := settings }
                ⟨key, membership, .single token⟩ = .ok clause ∧
              (Compiler.ofSchema schema).compile { settings := settings }
                  ⟨key, membership, .list [token]⟩ = .ok clause ∧
                (context.fieldShape found.name = .collection → plain = clause) ∧
                  ∀ held : FieldValue,
                    held.ComparableWith type.kind →
                      plain.accepts held = clause.accepts held := by
  simp only [(Compiler.ofSchema schema).compile_of_leadsTo _ accepted leads]
  have listRead :
      ((Compiler.ofSchema schema).selectedStrategy { settings := settings } passed context found
          type).readRaw type (.list [token]) =
        (((Compiler.ofSchema schema).selectedStrategy { settings := settings } passed context
          found type).readRaw type (.single token)).map Operand.intoList :=
    Strategy.standard_readRaw_singleton type _ _ token
  cases read :
      ((Compiler.ofSchema schema).selectedStrategy { settings := settings } passed context found
        type).readRaw type (.single token) with
  | error cause =>
      rw [read] at listRead
      refine .inl ⟨.badInput (pathTo passed found).toText type.name cause, ?_⟩
      intro operator _ value isSpelling
      rcases List.mem_pair.mp isSpelling with rfl | rfl
      · exact compileFound_of_readRaw_eq_error _ _ operator _ passed context declared read
      · exact compileFound_of_readRaw_eq_error _ _ operator _ passed context declared listRead
  | ok operand =>
      rw [read] at listRead
      have setTest := forms.isSetTest
      have asSet := forms.asMembership?_eq
      have equalityOfList := compileFound_asSet declared setTest listRead
        (by rw [Operand.isList_intoList, Operator.formFor?_list, asSet])
      have memberOfSingle := compileFound_asSet declared setTest read
        (setTest.formFor?_eq _ _)
      have memberOfList := compileFound_asSet declared setTest listRead
        (setTest.formFor?_eq _ _)
      rw [Operand.intoList_intoList] at equalityOfList memberOfList
      -- The shape of the field matters for the equality operator on the single token alone.
      cases shape : context.fieldShape found.name with
      | collection =>
          have equalityOfSingle := compileFound_asSet declared setTest read
            (by rw [shape, Operator.formFor?_collection, asSet])
          exact .inr ⟨_, _, equalityOfSingle, equalityOfList, memberOfSingle, memberOfList,
            fun _ => rfl, fun _ _ => rfl⟩
      | scalar =>
          have leafRead := read
          rw [selectedStrategy, shape] at leafRead
          obtain ⟨given, rfl, givenTyped⟩ := Strategy.isLeafOf_of_standard_read leafRead
          have isForm :
              equality.formFor? (context.fieldShape found.name) (Operand.scalar given).isList =
                some equality := by
            simp [Operator.formFor?, shape, forms.not_isSetTest, Operand.isList]
          have plain := compileFound_of_form declared read isForm (forms.mem_operators type.kind)
            forms.ne_regex
          refine .inr ⟨_, _, plain, equalityOfList, memberOfSingle, memberOfList, by simp, ?_⟩
          intro held comparable
          rw [Clause.ofForm_intoList setTest]
          exact Clause.ofForm_accepts forms _ _ _ _ given (givenTyped.kind_eq ▸ comparable)

/-- A population other than a given one is found by both spellings, whatever number it is. -/
theorem compile_equality_spellings_population :
    ∃ plain clause,
      (Compiler.ofSchema Record.Country.schema).compile { settings := {} }
          ⟨"population", .ne, .single "7"⟩ = .ok plain ∧
        (Compiler.ofSchema Record.Country.schema).compile { settings := {} }
            ⟨"population", .notIn, .list ["7"]⟩ = .ok clause ∧
          ∀ number : Decimal,
            plain.accepts (.scalar (.decimal number)) =
              clause.accepts (.scalar (.decimal number)) := by
  let country : FieldType := .entity Record.Country.schema
  let population : Attribute := ⟨"population", Record.typeOf .integer, none⟩
  have split : Key.segments "population" = [] ++ ["population"] := by decide
  have leads : LeadsTo country "population" [] country population :=
    leadsTo_of_segments split (.stay country) rfl
  rcases compile_equality_spellings Record.Country.schema {} "population" (by decide) [] country
      population leads (.ofKind .integer) rfl .ne .notIn .negative "7" with
    ⟨failure, failed⟩ | ⟨plain, clause, compiled, -, -, otherCompiled, -, agree⟩
  · cases failed .ne (by simp) (.single "7") (by simp)
  · exact ⟨plain, clause, compiled, otherCompiled, fun _ => agree _ .decimalWithInteger⟩

end Compiler

end FieldSearch
