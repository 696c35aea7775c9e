import FieldSearch.Compiler
import FieldSearch.Proofs.Strategy.Building
import FieldSearch.Record.Developer
import Mathlib.Data.List.Induction

namespace FieldSearch

/-!
# Registered and custom strategies

A table is what its strategies for the kinds of values are, and a registration changes
the one of its kind. So after a history of registrations the last one of each kind
counts. A custom strategy of a configuration takes the place of all of them, which is
what registering it for all kinds does as well.
-/

namespace StrategyTable

/-- A table after some registrations, in order. -/
def registerAll
    (table : StrategyTable)
    (registrations : List (ValueKind × Strategy)) :
    StrategyTable :=
  registrations.foldl (fun table (kind, strategy) => table.register kind strategy) table

/-- The last strategy that was registered for a kind. -/
def lastRegistered?
    (registrations : List (ValueKind × Strategy))
    (kind : ValueKind) :
    Option Strategy :=
  (registrations.reverse.find? (·.1 == kind)).map (·.2)

/-- A table after the registration of one strategy for some kinds. -/
def registerFor
    (table : StrategyTable)
    (kinds : List ValueKind)
    (strategy : Strategy) :
    StrategyTable :=
  table.registerAll (kinds.map (·, strategy))

/-- Tables with the same strategies are the same. -/
theorem eq_of_scalar_eq
    {left right : StrategyTable}
    (same : ∀ kind caseSensitive, left.scalar kind caseSensitive = right.scalar kind caseSensitive) :
    left = right := by
  obtain ⟨text, textAnyCase, integer, decimal, boolean, temporal, enumeration⟩ := left
  obtain rfl := same .text true
  obtain rfl := same .text false
  obtain rfl := same .integer true
  obtain rfl := same .decimal true
  obtain rfl := same .boolean true
  obtain rfl := same .temporal true
  obtain rfl := same .enumeration true
  rfl

/-- Registrations for different kinds commute. -/
theorem register_comm
    (table : StrategyTable)
    {kind other : ValueKind}
    (apart : kind ≠ other)
    (strategy otherStrategy : Strategy) :
    (table.register kind strategy).register other otherStrategy =
      (table.register other otherStrategy).register kind strategy := by
  refine eq_of_scalar_eq fun asked caseSensitive => ?_
  simp only [scalar_register]
  by_cases isKind : asked = kind
  · simp [isKind, apart]
  · simp [isKind]

theorem lastRegistered?_append_singleton
    (registrations : List (ValueKind × Strategy))
    (kind other : ValueKind)
    (strategy : Strategy) :
    lastRegistered? (registrations ++ [(kind, strategy)]) other =
      if other = kind then some strategy else lastRegistered? registrations other := by
  rw [lastRegistered?, List.reverse_append, List.reverse_singleton, List.singleton_append,
    List.find?_cons]
  by_cases isKind : other = kind
  · simp [isKind]
  · have notKind : (kind == other) = false := by
      rw [beq_eq_false_iff_ne]
      exact Ne.symm isKind
    simp only [notKind, if_neg isKind]
    rfl

/-- The last registration for a kind counts, or what was in the table before. -/
theorem scalar_registerAll
    (table : StrategyTable)
    (registrations : List (ValueKind × Strategy))
    (kind : ValueKind)
    (caseSensitive : Bool) :
    (table.registerAll registrations).scalar kind caseSensitive =
      (lastRegistered? registrations kind).getD (table.scalar kind caseSensitive) := by
  induction registrations using List.reverseRecOn with
  | nil =>
      rfl
  | append_singleton earlier last inductionHypothesis =>
      obtain ⟨lastKind, strategy⟩ := last
      have afterLast :
          table.registerAll (earlier ++ [(lastKind, strategy)]) =
            (table.registerAll earlier).register lastKind strategy := by
        rw [registerAll, List.foldl_append]
        rfl
      rw [afterLast, scalar_register, lastRegistered?_append_singleton, inductionHypothesis]
      split <;> rfl

/-- A strategy that is registered for all kinds is the one of each. -/
theorem scalar_registerFor
    (table : StrategyTable)
    {kinds : List ValueKind}
    {kind : ValueKind}
    (member : kind ∈ kinds)
    (strategy : Strategy)
    (caseSensitive : Bool) :
    (table.registerFor kinds strategy).scalar kind caseSensitive = strategy := by
  have isLast : lastRegistered? (kinds.map (·, strategy)) kind = some strategy := by
    induction kinds using List.reverseRecOn with
    | nil =>
        cases member
    | append_singleton earlier last inductionHypothesis =>
        rw [List.map_append, List.map_singleton, lastRegistered?_append_singleton]
        split
        · rfl
        · next notLast =>
            exact inductionHypothesis (by simpa [notLast] using member)
  rw [registerFor, scalar_registerAll, isLast, Option.getD_some]

/-- To choose a custom strategy is to choose it from a table that has it for all kinds. -/
theorem select_registerFor
    (table : StrategyTable)
    {kinds : List ValueKind}
    (allKinds : ∀ kind, kind ∈ kinds)
    (strategy : Strategy)
    (declared : FieldType)
    (field : String)
    (caseSensitive : Bool)
    (shape : FieldShape) :
    (table.registerFor kinds strategy).select declared field caseSensitive none shape =
      table.select declared field caseSensitive (some strategy) shape := by
  cases declared with
  | value type =>
      simp only [select, Option.getD_none, Option.getD_some,
        table.scalar_registerFor (allKinds type.kind)]
  | entity | «foreign» =>
      rfl

end StrategyTable

namespace Compiler

/-- A custom strategy of the configuration does what its registration for all kinds does. -/
theorem compile_registerFor
    (root : FieldType)
    (table : StrategyTable)
    {config : Config}
    (plain : config.strategy = none)
    (strategy : Strategy)
    {kinds : List ValueKind}
    (allKinds : ∀ kind, kind ∈ kinds)
    (criterion : Criterion) :
    Compiler.compile { root := root, table := table } (config.withStrategy strategy) criterion =
      Compiler.compile { root := root, table := table.registerFor kinds strategy } config
        criterion := by
  -- The key is resolved without a strategy; one is chosen at the attribute it leads to.
  have atAttribute (resolved : ResolvedKey) (found : Attribute) :
      Compiler.compileAttribute { root := root, table := table } (config.withStrategy strategy)
          criterion resolved found =
        Compiler.compileAttribute { root := root, table := table.registerFor kinds strategy }
          config criterion resolved found := by
    simp only [compileAttribute, plain, table.select_registerFor allKinds, Config.withStrategy]
  simp only [compile, atAttribute]

/--
The two ways of overriding a strategy agree. In a table that was reached by some
registrations, the strategy of a kind is the last one that was registered for it, or the
standard one if there is none, and registrations for different kinds commute. A custom
strategy of a configuration does for every criterion, in clauses and in errors, what its
registration for all kinds does without it.
-/
theorem compile_withStrategy
    (schema : EntitySchema)
    (registrations : List (ValueKind × Strategy)) :
    (∀ kind caseSensitive,
      (StrategyTable.standard.registerAll registrations).scalar kind caseSensitive =
        (StrategyTable.lastRegistered? registrations kind).getD
          (StrategyTable.standard.scalar kind caseSensitive)) ∧
      (∀ kind other strategy otherStrategy, kind ≠ other →
        ((StrategyTable.standard.registerAll registrations).register kind strategy).register
            other otherStrategy =
          ((StrategyTable.standard.registerAll registrations).register other
            otherStrategy).register kind strategy) ∧
      ∀ (config : Config) (strategy : Strategy) (kinds : List ValueKind) (criterion : Criterion),
        config.strategy = none →
          (∀ kind, kind ∈ kinds) →
            Compiler.compile
                { root := .entity schema
                  table := StrategyTable.standard.registerAll registrations }
                (config.withStrategy strategy) criterion =
              Compiler.compile
                { root := .entity schema
                  table :=
                    (StrategyTable.standard.registerAll registrations).registerFor kinds strategy }
                config criterion := by
  refine ⟨StrategyTable.scalar_registerAll _ registrations, ?_, ?_⟩
  · intro kind other strategy otherStrategy apart
    exact StrategyTable.register_comm _ apart strategy otherStrategy
  · intro config strategy kinds criterion plain allKinds
    exact compile_registerFor _ _ plain strategy allKinds criterion

/-- Texts are trimmed in the end, and integers are read as before. -/
def trimmedAfterUpper : List (ValueKind × Strategy) :=
  [(.text, .upper), (.decimal, .upper), (.text, .trimmed)]

/-- A custom strategy for collections of texts, on texts and where a search is refused. -/
theorem compile_withStrategy_trimmedAfterUpper :
    (StrategyTable.standard.registerAll trimmedAfterUpper).scalar .text false = .trimmed ∧
      (StrategyTable.standard.registerAll trimmedAfterUpper).scalar .integer true = .integer ∧
        Compiler.compile
            { root := .entity Record.Developer.schema
              table :=
                (StrategyTable.standard.registerAll trimmedAfterUpper).registerFor ValueKind.all
                  (Strategy.text true).collection }
            {} ⟨"languages", .ne, .single " Go "⟩ =
          .ok {
            path := ⟨[], "languages"⟩
            operator := .notIn
            value := .list [.ofText " Go "]
            shape := .collection
          } ∧
          Compiler.compile
              { root := .entity Record.Developer.schema
                table :=
                  (StrategyTable.standard.registerAll trimmedAfterUpper).registerFor ValueKind.all
                    (Strategy.text true).collection }
              {} ⟨"age", .gt, .single "7"⟩ =
            .error (.invalidOperator .gt "Collection") := by
  obtain ⟨lastWins, -, agree⟩ := compile_withStrategy Record.Developer.schema trimmedAfterUpper
  have allKinds : ∀ kind, kind ∈ ValueKind.all := by
    intro kind
    cases kind <;> decide
  refine ⟨lastWins .text false, lastWins .integer true, ?_, ?_⟩
  · rw [← agree {} (Strategy.text true).collection ValueKind.all _ rfl allKinds]
    rfl
  · rw [← agree {} (Strategy.text true).collection ValueKind.all _ rfl allKinds]
    rfl

end Compiler

end FieldSearch
