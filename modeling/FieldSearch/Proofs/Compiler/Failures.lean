import FieldSearch.Proofs.Compiler.Resolution
import FieldSearch.Proofs.Strategy.Refusals

namespace FieldSearch.Compiler

open Outcomes

/-!
# Failures of compilations

A compilation fails at the first stage that cannot be passed: the type of the
field has to be one of values, then each token has to be read, and only then the
operator and the pattern are looked at. The first stages are passed or not for
the key and the schema alone, so the same is true of the statuses they answer.
-/

/-- Every strategy that a compiler may choose does what is documented. -/
def Conforms (compiler : Compiler) (config : Config) : Prop :=
  ∀ strategy, compiler.MayChoose config strategy → strategy.Conforms

/-- A search fails with an error that is answered with a status. -/
def Answers
    (compiler : Compiler)
    (config : Config)
    (criterion : Criterion)
    (status : Status) :
    Prop :=
  ∃ failure, compiler.compile config criterion = .error failure ∧ failure.status = status

/-- With the standard strategies alone, all strategies do. -/
theorem conforms_standard
    (root : FieldType)
    {config : Config}
    (noCustom : config.strategy = none) :
    Conforms { root := root } config := by
  rintro strategy (custom | ⟨kind, caseSensitive, rfl⟩)
  · rw [noCustom] at custom
    cases custom
  · exact Strategy.conforms_standard kind caseSensitive

theorem Conforms.selectedStrategy
    {compiler : Compiler}
    {config : Config}
    (conforms : compiler.Conforms config)
    (passed : List Attribute)
    (context : FieldType)
    (found : Attribute)
    (type : ValueType) :
    (compiler.selectedStrategy config passed context found type).Conforms :=
  (conforms _ (compiler.mayChoose_chosenStrategy config passed found type)).fit
    (context.fieldShape found.name)

/-! The stages at an attribute that has been found. -/

section Found

variable
  {compiler : Compiler}
  {config : Config}
  {operator : Operator}
  {value : RawValue}
  {passed : List Attribute}
  {context : FieldType}
  {found : Attribute}
  {type : ValueType}

/-- For a type of values, either reading fails, or it succeeds and building is refused. -/
theorem compileFound_eq_error_cases
    (conforms : compiler.Conforms config)
    (declared : found.declared = .value type)
    {failure : SearchError}
    (failed :
      compiler.compileFound config operator value passed context found = .error failure) :
    (∃ cause,
      (compiler.selectedStrategy config passed context found type).readRaw type value =
          .error cause ∧
        failure = .badInput (pathTo passed found).toText type.name cause) ∨
      (∃ operand,
        (compiler.selectedStrategy config passed context found type).readRaw type value =
          .ok operand) ∧
        failure.IsRefusal := by
  cases read : (compiler.selectedStrategy config passed context found type).readRaw type value with
  | error cause =>
      rw [compiler.compileFound_of_readRaw_eq_error config operator value passed context declared
        read] at failed
      exact .inl ⟨cause, rfl, (Except.error.inj failed).symm⟩
  | ok operand =>
      rw [compiler.compileFound_of_readRaw_eq_ok config operator value passed context declared
        read] at failed
      have selected := conforms.selectedStrategy passed context found type
      exact .inr ⟨⟨operand, rfl⟩, selected.blamesClauses _ operator operand failure failed⟩

theorem compileFound_eq_unsupportedType_iff
    (conforms : compiler.Conforms config)
    (field typeName : String) :
    compiler.compileFound config operator value passed context found =
        .error (.unsupportedType field typeName) ↔
      (∀ type, found.declared ≠ .value type) ∧
        field = (pathTo passed found).toText ∧
          typeName = found.declared.name := by
  by_cases noValue : ∀ type, found.declared ≠ .value type
  · rw [compiler.compileFound_of_no_value config operator value passed context noValue]
    constructor
    · intro same
      cases same
      exact ⟨noValue, rfl, rfl⟩
    · rintro ⟨-, rfl, rfl⟩
      rfl
  · constructor
    · intro failed
      push Not at noValue
      obtain ⟨type, declared⟩ := noValue
      rcases compileFound_eq_error_cases conforms declared failed with
        ⟨cause, -, impossible⟩ | ⟨-, refusal⟩
      · cases impossible
      · rcases refusal with ⟨_, _, impossible⟩ | ⟨_, impossible⟩ <;> cases impossible
    · rintro ⟨isNoValue, -⟩
      exact absurd isNoValue noValue

theorem compileFound_eq_badInput_iff
    (conforms : compiler.Conforms config)
    (declared : found.declared = .value type)
    (field expected : String)
    (cause : ConversionError) :
    compiler.compileFound config operator value passed context found =
        .error (.badInput field expected cause) ↔
      field = (pathTo passed found).toText ∧
        expected = found.declared.name ∧
          Strategy.FirstRefused
            ((compiler.selectedStrategy config passed context found type).read type)
            value.tokens cause := by
  have tokenwise := (conforms.selectedStrategy passed context found type).readsTokenByToken
  have displayed : found.declared.name = type.name := by
    rw [declared, FieldType.name]
  rw [displayed, ← tokenwise.readRaw_eq_error_iff]
  constructor
  · intro failed
    rcases compileFound_eq_error_cases conforms declared failed with
      ⟨own, refused, same⟩ | ⟨-, refusal⟩
    · cases same
      exact ⟨rfl, rfl, refused⟩
    · rcases refusal with ⟨_, _, impossible⟩ | ⟨_, impossible⟩ <;> cases impossible
  · rintro ⟨rfl, rfl, refused⟩
    exact compiler.compileFound_of_readRaw_eq_error config operator value passed context
      declared refused

/-- The operator and the pattern are looked at only when every token has been read. -/
theorem exists_readRaw_of_isRefusal
    (conforms : compiler.Conforms config)
    (declared : found.declared = .value type)
    {failure : SearchError}
    (failed :
      compiler.compileFound config operator value passed context found = .error failure)
    (refusal : failure.IsRefusal) :
    ∃ operand,
      (compiler.selectedStrategy config passed context found type).readRaw type value =
        .ok operand := by
  rcases compileFound_eq_error_cases conforms declared failed with
    ⟨cause, -, rfl⟩ | ⟨read, -⟩
  · rcases refusal with ⟨_, _, impossible⟩ | ⟨_, impossible⟩ <;> cases impossible
  · exact read

/-- What fails at an attribute is answered as internal just if its type is not one of values. -/
theorem status_of_compileFound
    (conforms : compiler.Conforms config)
    {failure : SearchError}
    (failed :
      compiler.compileFound config operator value passed context found = .error failure) :
    (failure.status = .internal ∧ ∀ type, found.declared ≠ .value type) ∨
      (failure.status = .badRequest ∧ ∃ type, found.declared = .value type) := by
  by_cases noValue : ∀ type, found.declared ≠ .value type
  · rw [compiler.compileFound_of_no_value config operator value passed context noValue] at failed
    cases failed
    exact .inl ⟨rfl, noValue⟩
  · push Not at noValue
    obtain ⟨type, declared⟩ := noValue
    refine .inr ⟨?_, type, declared⟩
    rcases compileFound_eq_error_cases conforms declared failed with
      ⟨cause, -, rfl⟩ | ⟨-, refusal⟩
    · rfl
    · exact refusal.status_eq

end Found

/-! The statuses that the key and the schema decide. -/

section Statuses

variable
  {compiler : Compiler}
  {config : Config}
  {key : String}

/-- A search is unprocessable just if its key is stuck. -/
theorem answers_unprocessableEntity_iff
    (conforms : compiler.Conforms config)
    (accepted : Key.wellFormed key = true)
    (operator : Operator)
    (value : RawValue) :
    compiler.Answers config ⟨key, operator, value⟩ .unprocessableEntity ↔
      ∃ index context, compiler.root.StuckAt (Key.segments key) index context := by
  constructor
  · rintro ⟨failure, failed, answered⟩
    rcases leadsTo_or_stuckAt compiler.root key with ⟨passed, context, found, leads⟩ | stuck
    · rw [compiler.compile_of_leadsTo config accepted leads] at failed
      rcases status_of_compileFound conforms failed with ⟨status, -⟩ | ⟨status, -⟩ <;>
        · rw [status] at answered
          cases answered
    · exact stuck
  · rintro ⟨index, context, stuck⟩
    obtain ⟨segment, atIndex⟩ := stuck.exists_segment
    exact ⟨_, @compile_of_stuckAt compiler config ⟨key, operator, value⟩ accepted index context
      segment stuck atIndex, rfl⟩

/-- A search fails internally just if its key leads to a type that is not one of values. -/
theorem answers_internal_iff
    (conforms : compiler.Conforms config)
    (accepted : Key.wellFormed key = true)
    (operator : Operator)
    (value : RawValue) :
    compiler.Answers config ⟨key, operator, value⟩ .internal ↔
      ∃ passed context found,
        LeadsTo compiler.root key passed context found ∧
          ∀ type, found.declared ≠ .value type := by
  constructor
  · rintro ⟨failure, failed, answered⟩
    rcases leadsTo_or_stuckAt compiler.root key with
      ⟨passed, context, found, leads⟩ | ⟨index, context, stuck⟩
    · rw [compiler.compile_of_leadsTo config accepted leads] at failed
      rcases status_of_compileFound conforms failed with ⟨-, noValue⟩ | ⟨status, -⟩
      · exact ⟨passed, context, found, leads, noValue⟩
      · rw [status] at answered
        cases answered
    · obtain ⟨segment, atIndex⟩ := stuck.exists_segment
      have blamed := @compile_of_stuckAt compiler config ⟨key, operator, value⟩ accepted index
        context segment stuck atIndex
      rw [blamed] at failed
      cases failed
      cases answered
  · rintro ⟨passed, context, found, leads, noValue⟩
    have compiled := compiler.compile_of_leadsTo config accepted leads operator value
    rw [compiler.compileFound_of_no_value config operator value passed context noValue] at compiled
    exact ⟨_, compiled, rfl⟩

end Statuses

/--
Compilations fail by stages. Of a key that leads to an attribute, a type that is
not one of values is reported, and otherwise what the selected strategy cannot
read, whatever strategies there are. If the strategies do what is documented,
nothing else is reported as such: the type exactly if it is not one of values,
the input exactly if some token cannot be read, with the path of the field, the
name of the type and the cause of the first such token, and an operator or a
pattern only if every token has been read. Whether a search is then answered as
unprocessable or as internal is told from the key and the root alone, whatever
the operator, the value, the configuration and the table.
-/
theorem compile_fails_by_stage
    (compiler : Compiler)
    (config : Config)
    (key : String)
    (accepted : Key.wellFormed key = true)
    (operator : Operator)
    (value : RawValue) :
    (∀ passed context found,
      LeadsTo compiler.root key passed context found →
        ((∀ type, found.declared ≠ .value type) →
          compiler.compile config ⟨key, operator, value⟩ =
            .error (.unsupportedType (pathTo passed found).toText found.declared.name)) ∧
          (∀ type cause,
            found.declared = .value type →
              (compiler.selectedStrategy config passed context found type).readRaw type value =
                  .error cause →
                compiler.compile config ⟨key, operator, value⟩ =
                  .error (.badInput (pathTo passed found).toText found.declared.name cause)) ∧
            (compiler.Conforms config →
              (∀ field typeName,
                compiler.compile config ⟨key, operator, value⟩ =
                    .error (.unsupportedType field typeName) ↔
                  (∀ type, found.declared ≠ .value type) ∧
                    field = (pathTo passed found).toText ∧
                      typeName = found.declared.name) ∧
                ∀ type,
                  found.declared = .value type →
                    ((∃ field expected cause,
                        compiler.compile config ⟨key, operator, value⟩ =
                          .error (.badInput field expected cause)) ↔
                      ∃ token ∈ value.tokens, ∃ cause,
                        (compiler.selectedStrategy config passed context found type).read type
                          token = .error cause) ∧
                      (∀ field expected cause,
                        compiler.compile config ⟨key, operator, value⟩ =
                            .error (.badInput field expected cause) ↔
                          field = (pathTo passed found).toText ∧
                            expected = found.declared.name ∧
                              Strategy.FirstRefused
                                ((compiler.selectedStrategy config passed context found type).read
                                  type)
                                value.tokens cause) ∧
                        ∀ failure,
                          compiler.compile config ⟨key, operator, value⟩ = .error failure →
                            failure.IsRefusal →
                              ∃ operand,
                                (compiler.selectedStrategy config passed context found
                                  type).readRaw type value = .ok operand)) ∧
      ∀ (other : Compiler) (otherConfig : Config) (otherOperator : Operator)
        (otherValue : RawValue) (status : Status),
        compiler.Conforms config →
          other.Conforms otherConfig →
            other.root = compiler.root →
              status = .unprocessableEntity ∨ status = .internal →
                (compiler.Answers config ⟨key, operator, value⟩ status ↔
                  other.Answers otherConfig ⟨key, otherOperator, otherValue⟩ status) := by
  constructor
  · intro passed context found leads
    rw [compiler.compile_of_leadsTo config accepted leads]
    refine ⟨compiler.compileFound_of_no_value config operator value passed context, ?_, ?_⟩
    · intro type cause declared refused
      have displayed : found.declared.name = type.name := by
        rw [declared, FieldType.name]
      rw [displayed]
      exact compiler.compileFound_of_readRaw_eq_error config operator value passed context
        declared refused
    · intro conforms
      refine ⟨compileFound_eq_unsupportedType_iff conforms, ?_⟩
      intro type declared
      have reported := @compileFound_eq_badInput_iff compiler config operator value passed context
        found type conforms declared
      refine ⟨?_, reported, ?_⟩
      · rw [← Strategy.exists_firstRefused_iff]
        constructor
        · rintro ⟨field, expected, cause, failed⟩
          exact ⟨cause, ((reported field expected cause).mp failed).2.2⟩
        · rintro ⟨cause, refused⟩
          exact ⟨_, _, cause, (reported _ _ cause).mpr ⟨rfl, rfl, refused⟩⟩
      · intro failure failed refusal
        exact exists_readRaw_of_isRefusal conforms declared failed refusal
  · rintro other otherConfig otherOperator otherValue status conforms otherConforms sameRoot
      (rfl | rfl)
    -- Either status has a condition on the key and the root, in which nothing else occurs.
    · rw [answers_unprocessableEntity_iff conforms accepted,
        answers_unprocessableEntity_iff otherConforms accepted, sameRoot]
    · rw [answers_internal_iff conforms accepted, answers_internal_iff otherConforms accepted,
        sameRoot]

theorem conforms_upperCased : upperCased.Conforms {} :=
  forall_upperCased Strategy.conforms_standard (Strategy.conforms_of_uncheckedClause _ _)

/--
Of two bad numbers under an operator that numbers do not admit, the first is
reported; and a country is not searched with either table of strategies.
-/
theorem compile_fails_by_stage_country :
    upperCased.compile {} ⟨"COUNTRY.population", .contains, .list ["1", "many", ""]⟩ =
        .error (.badInput "country.population" "Integer" (.integer .invalidDigit)) ∧
      (Compiler.ofSchema Record.Address.schema).Answers {} ⟨"COUNTRY", .eq, .single "x"⟩
        .internal := by
  constructor
  · have accepted : Key.wellFormed "COUNTRY.population" = true := by decide
    have ⟨stages, _⟩ := compile_fails_by_stage upperCased {} "COUNTRY.population" accepted
      .contains (.list ["1", "many", ""])
    let country : Attribute := ⟨"country", .entity Record.Country.schema, none⟩
    let population : Attribute := ⟨"population", Record.typeOf .integer, none⟩
    have split : Key.segments "COUNTRY.population" = ["COUNTRY"] ++ ["population"] := by decide
    have leads :
        LeadsTo upperCased.root "COUNTRY.population" [country] country.declared population :=
      leadsTo_of_segments split (.through rfl (.stay _)) rfl
    have ⟨_, _, exactly⟩ := stages _ _ _ leads
    rw [((exactly conforms_upperCased).2 (.ofKind .integer) rfl).2.1]
    refine ⟨rfl, rfl, ["1"], "many", [""], rfl, ?_, rfl⟩
    intro token member
    rw [List.mem_singleton] at member
    subst member
    exact ⟨_, rfl⟩
  · have ⟨_, alone⟩ := compile_fails_by_stage upperCased {} "COUNTRY" (by decide) .contains
      (.list [])
    have answered : upperCased.Answers {} ⟨"COUNTRY", .contains, .list []⟩ .internal :=
      ⟨_, rfl, rfl⟩
    exact (alone (Compiler.ofSchema Record.Address.schema) {} .eq (.single "x") .internal
      conforms_upperCased (conforms_standard _ rfl) rfl (.inr rfl)).mp answered

end FieldSearch.Compiler
