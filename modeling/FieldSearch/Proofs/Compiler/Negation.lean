import FieldSearch.Proofs.Clause.Comparison
import FieldSearch.Proofs.Compiler.Admission

namespace FieldSearch

open Outcomes

/-!
# Opposite searches

Two searches that differ in their operators alone, of which one is the opposite
of the other, are compiled in the same way with the standard strategies: the
operators take opposite forms, or both are refused. On every present value
exactly one of the two clauses holds, and a missing value satisfies neither.
-/

/-- The same error, naming another operator if it names one. -/
def SearchError.naming (operator : Operator) : SearchError → SearchError
  | .invalidOperator _ kind => .invalidOperator operator kind
  | failure => failure

namespace Operator.Opposed

variable {positive negative : Operator}

/-- Opposite operators take opposite forms, or neither takes one. -/
theorem formFor?_cases
    (opposed : positive.Opposed negative)
    (shape : FieldShape)
    (isList : Bool) :
    (positive.formFor? shape isList = none ∧ negative.formFor? shape isList = none) ∨
      ∃ form other,
        positive.formFor? shape isList = some form ∧
          negative.formFor? shape isList = some other ∧
            form.Opposed other ∧
              form.isMembership = positive.isMembership := by
  cases shape with
  | collection =>
      simp only [formFor?_collection]
      cases opposed with
      | equality | membership =>
          exact .inr ⟨.isIn, .notIn, rfl, rfl, .membership, rfl⟩
      | greater | less =>
          exact .inl ⟨rfl, rfl⟩
  | scalar =>
      cases isList with
      | true =>
          simp only [formFor?_list]
          cases opposed with
          | equality | membership =>
              exact .inr ⟨.isIn, .notIn, rfl, rfl, .membership, rfl⟩
          | greater | less =>
              exact .inl ⟨rfl, rfl⟩
      | false =>
          -- A single value leaves operators as they are, set tests among them.
          exact .inr ⟨positive, negative, by cases opposed <;> rfl, by cases opposed <;> rfl,
            opposed, rfl⟩

/-- A kind admits both of two opposite operators or neither. -/
theorem mem_operators_iff
    (opposed : positive.Opposed negative)
    (kind : ValueKind) :
    positive ∈ kind.operators ↔ negative ∈ kind.operators := by
  cases opposed <;> cases kind <;> decide

/-- Of two opposite operators, both have an admitted form or neither has one. -/
theorem admitted_cases
    (opposed : positive.Opposed negative)
    (kind : ValueKind)
    (shape : FieldShape)
    (isList : Bool) :
    ((∀ form, positive.formFor? shape isList = some form → form ∉ kind.operators) ∧
      ∀ form, negative.formFor? shape isList = some form → form ∉ kind.operators) ∨
      ∃ form other,
        (positive.formFor? shape isList = some form ∧ form ∈ kind.operators) ∧
          (negative.formFor? shape isList = some other ∧ other ∈ kind.operators) ∧
            form.Opposed other ∧
              form.isMembership = positive.isMembership := by
  rcases opposed.formFor?_cases shape isList with
    ⟨noForm, noOther⟩ | ⟨form, other, isForm, isOther, opposedForms, sameSort⟩
  · exact .inl ⟨by simp [noForm], by simp [noOther]⟩
  · have together := opposedForms.mem_operators_iff kind
    by_cases admitted : form ∈ kind.operators
    · exact .inr ⟨form, other, ⟨isForm, admitted⟩, ⟨isOther, together.mp admitted⟩,
        opposedForms, sameSort⟩
    · have otherNotAdmitted : other ∉ kind.operators :=
        fun otherAdmitted => admitted (together.mpr otherAdmitted)
      exact .inl ⟨by simpa [isForm] using admitted, by simpa [isOther] using otherNotAdmitted⟩

/-- The clauses of opposite forms differ in their operators alone. -/
theorem ofForm_eq
    (opposed : positive.Opposed negative)
    (kind : ValueKind)
    (caseSensitive : Bool)
    (shape : FieldShape)
    (target : FieldPath)
    (value : Operand) :
    Clause.ofForm kind caseSensitive shape target negative value =
      { Clause.ofForm kind caseSensitive shape target positive value with
        operator := negative } := by
  cases opposed <;> rfl

end Operator.Opposed

namespace Compiler

/-- At an attribute, opposite searches fail alike or make clauses with opposite operators. -/
theorem compileFound_opposed
    {root : FieldType}
    {settings : CaseSettings}
    {positive negative : Operator}
    (opposed : positive.Opposed negative)
    (value : RawValue)
    (passed : List Attribute)
    (context : FieldType)
    (found : Attribute) :
    (∃ failure : SearchError,
      Compiler.compileFound { root := root } { settings := settings } positive value passed
          context found = .error (failure.naming positive) ∧
        Compiler.compileFound { root := root } { settings := settings } negative value passed
          context found = .error (failure.naming negative)) ∨
      ∃ (clause : Clause) (form other : Operator),
        Compiler.compileFound { root := root } { settings := settings } positive value passed
            context found = .ok { clause with operator := form } ∧
          Compiler.compileFound { root := root } { settings := settings } negative value passed
              context found = .ok { clause with operator := other } ∧
            form.Opposed other ∧
              form.isMembership = positive.isMembership := by
  by_cases noValue : ∀ type, found.declared ≠ .value type
  · refine .inl ⟨.unsupportedType (pathTo passed found).toText found.declared.name, ?_, ?_⟩ <;>
      exact compileFound_of_no_value _ _ _ value passed context noValue
  · push Not at noValue
    obtain ⟨type, declared⟩ := noValue
    cases read :
        (Compiler.selectedStrategy { root := root } { settings := settings } passed context found
          type).readRaw type value with
    | error cause =>
        refine .inl ⟨.badInput (pathTo passed found).toText type.name cause, ?_, ?_⟩ <;>
          exact compileFound_of_readRaw_eq_error _ _ _ value passed context declared read
    | ok operand =>
        rcases opposed.admitted_cases type.kind (context.fieldShape found.name) operand.isList with
          ⟨refused, otherRefused⟩ |
            ⟨form, other, ⟨isForm, admitted⟩, ⟨isOther, otherAdmitted⟩, opposedForms, sameSort⟩
        · refine .inl ⟨.invalidOperator positive
            ((context.fieldShape found.name).refusedKind type.kind), ?_, ?_⟩
          · exact compileFound_of_refused declared read refused
          · exact compileFound_of_refused declared read otherRefused
        · have ⟨notPattern, otherNotPattern⟩ := opposedForms.ne_regex
          have compiled := compileFound_of_form declared read isForm admitted notPattern
          have otherCompiled :=
            compileFound_of_form declared read isOther otherAdmitted otherNotPattern
          rw [opposedForms.ofForm_eq] at otherCompiled
          exact .inr ⟨_, form, other, compiled, otherCompiled, opposedForms, sameSort⟩

/--
Opposite searches are complementary. They fail together, with errors that differ
at most in the operator they name, or they are compiled together. In that case
exactly one of the two clauses holds of every present value of the field, and
neither holds of a missing one.
-/
theorem compile_opposed_complementary
    (schema : EntitySchema)
    (settings : CaseSettings)
    (key : String)
    (accepted : Key.wellFormed key = true)
    (positive negative : Operator)
    (opposed : positive.Opposed negative)
    (value : RawValue) :
    (∃ failure : SearchError,
      (Compiler.ofSchema schema).compile { settings := settings } ⟨key, positive, value⟩ =
          .error (failure.naming positive) ∧
        (Compiler.ofSchema schema).compile { settings := settings } ⟨key, negative, value⟩ =
          .error (failure.naming negative)) ∨
      ∃ clause opposite trail type,
        (Compiler.ofSchema schema).compile { settings := settings } ⟨key, positive, value⟩ =
            .ok clause ∧
          (Compiler.ofSchema schema).compile { settings := settings } ⟨key, negative, value⟩ =
              .ok opposite ∧
            (FieldType.entity schema).Route (Key.segments key) trail (.value type) ∧
              (∀ held : FieldValue,
                held.PresentFor positive type.kind →
                  opposite.accepts held = !clause.accepts held) ∧
                clause.accepts .missing = false ∧
                  opposite.accepts .missing = false := by
  rcases leadsTo_or_stuckAt (.entity schema) key with
    ⟨passed, context, found, leads⟩ | ⟨index, context, stuck⟩
  · have arrives (operator : Operator) :=
      (Compiler.ofSchema schema).compile_of_leadsTo { settings := settings } accepted leads
        operator value
    rw [arrives positive, arrives negative]
    rcases compileFound_opposed opposed value passed context found with
      failed | ⟨clause, form, other, compiled, otherCompiled, opposedForms, sameSort⟩
    · exact .inl failed
    · obtain ⟨type, declared, typed⟩ := wellTyped_of_compileFound compiled
      have route := leads.route_segments
      rw [declared] at route
      refine .inr ⟨_, _, passed ++ [found], type, compiled, otherCompiled, route, ?_, rfl, rfl⟩
      intro held present
      refine clause.accepts_opposed opposedForms typed ?_
      cases held with
      | missing =>
          cases present
      | scalar held =>
          exact present
      | list items =>
          exact sameSort.trans present
  · obtain ⟨segment, atIndex⟩ := stuck.exists_segment
    have blamed (operator : Operator) :=
      @compile_of_stuckAt (.ofSchema schema) { settings := settings } ⟨key, operator, value⟩
        accepted index context segment stuck atIndex
    exact .inl ⟨.fieldNotFound segment context.name, blamed positive, blamed negative⟩

/-- Every decimal number is either above a given population or at most as large. -/
theorem compile_opposed_complementary_population :
    ∃ clause opposite,
      (Compiler.ofSchema Record.Country.schema).compile { settings := {} }
          ⟨"population", .gt, .single "7"⟩ = .ok clause ∧
        (Compiler.ofSchema Record.Country.schema).compile { settings := {} }
            ⟨"population", .lte, .single "7"⟩ = .ok opposite ∧
          ∀ number : Decimal,
            opposite.accepts (.scalar (.decimal number)) =
              !clause.accepts (.scalar (.decimal number)) := by
  rcases compile_opposed_complementary Record.Country.schema {} "population" (by decide) .gt .lte
      .greater (.single "7") with
    ⟨failure, failed, -⟩ |
      ⟨clause, opposite, trail, type, compiled, otherCompiled, route, disagree, -⟩
  · cases failed
  · have split : Key.segments "population" = ["population"] := by decide
    have isInteger : type.kind = .integer := by
      rw [split] at route
      cases route with
      | through denotes rest =>
          cases denotes
          cases rest
          rfl
    refine ⟨clause, opposite, compiled, otherCompiled, ?_⟩
    intro number
    apply disagree
    rw [isInteger]
    exact .decimalWithInteger

end Compiler

end FieldSearch
