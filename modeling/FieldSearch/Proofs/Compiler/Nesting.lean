import FieldSearch.Proofs.Compiler.Resolution
import FieldSearch.Proofs.Strategy.Targets

namespace FieldSearch

/-!
# Nested keys

A key behind a segment is compiled like the key alone on the declared type of the
attribute that the segment denotes: what encloses a type makes no difference but
to the paths in clauses and in errors.
-/

/-- The path of a field of an attribute's records, seen from where the attribute is. -/
def FieldPath.within (name : String) (path : FieldPath) : FieldPath :=
  { path with segments := name :: path.segments }

/-- A clause on the records of an attribute, seen from where the attribute is. -/
def Clause.within (name : String) (clause : Clause) : Clause :=
  { clause with path := clause.path.within name }

/-- An error on the records of an attribute; names of missing fields are not paths. -/
def SearchError.within (name : String) : SearchError → SearchError
  | .badInput field expected source => .badInput (name ++ "." ++ field) expected source
  | .unsupportedType field typeName => .unsupportedType (name ++ "." ++ field) typeName
  | failure => failure

/-- The outcome of a search on the records of an attribute. -/
def outcomeWithin
    (name : String) :
    Except SearchError Clause → Except SearchError Clause
  | .ok clause => .ok (clause.within name)
  | .error failure => .error (failure.within name)

theorem FieldPath.toText_within
    (name : String)
    (path : FieldPath) :
    (path.within name).toText = name ++ "." ++ path.toText :=
  Key.join_cons name (by simp)

theorem SearchError.within_of_field?_eq_none
    {failure : SearchError}
    (namesNoField : failure.field? = none)
    (name : String) :
    failure.within name = failure := by
  cases failure <;> first | rfl | cases namesNoField

/-- Settings without entries do not look at paths. -/
theorem CaseSettings.caseSensitiveFor_of_fields_eq_nil
    {settings : CaseSettings}
    (noEntries : settings.fields = [])
    (path : String)
    (declared : Option Bool) :
    settings.caseSensitiveFor path declared = declared.getD settings.caseSensitive := by
  simp [caseSensitiveFor, settingFor?, noEntries]

namespace Compiler

/-- Every strategy that a compiler may choose builds anywhere. -/
def BuildsAnywhere (compiler : Compiler) (config : Config) : Prop :=
  ∀ strategy, compiler.MayChoose config strategy → strategy.BuildsAnywhere

theorem pathTo_cons
    (outer : Attribute)
    (passed : List Attribute)
    (found : Attribute) :
    pathTo (outer :: passed) found = (pathTo passed found).within outer.name :=
  rfl

theorem chosenStrategy_cons
    (compiler : Compiler)
    {config : Config}
    (noEntries : config.settings.fields = [])
    (outer : Attribute)
    (passed : List Attribute)
    (found : Attribute)
    (type : ValueType) :
    compiler.chosenStrategy config (outer :: passed) found type =
      compiler.chosenStrategy config passed found type := by
  simp only [chosenStrategy, caseSensitiveAt,
    CaseSettings.caseSensitiveFor_of_fields_eq_nil noEntries]

/-- Reading names the field in its error, and nothing else of the place. -/
theorem parse_within
    (strategy : Strategy)
    (type : ValueType)
    (name : String)
    (path : FieldPath)
    (value : RawValue) :
    strategy.parse type (path.within name).toText value =
      (strategy.parse type path.toText value).mapError (.within name) := by
  unfold Strategy.parse
  rw [path.toText_within name]
  cases strategy.readRaw type value <;> rfl

theorem build_within
    {strategy : Strategy}
    (anywhere : strategy.BuildsAnywhere)
    (name : String)
    (path : FieldPath)
    (operator : Operator)
    (value : Operand) :
    strategy.build (path.within name) operator value =
      outcomeWithin name (strategy.build path operator value) := by
  rw [anywhere.build_eq path]
  cases built : strategy.build path operator value with
  | error failure =>
      have namesNoField := anywhere.field?_eq_none path operator value failure built
      simp [Except.map, outcomeWithin, SearchError.within_of_field?_eq_none namesNoField]
  | ok clause =>
      have onPath := anywhere.keepsTarget path operator value clause built
      simp [Except.map, outcomeWithin, Clause.within, Clause.onto, onPath]

/-- Behind another attribute, an attribute is compiled as it is alone. -/
theorem compileFound_cons
    {compiler : Compiler}
    {config : Config}
    (noEntries : config.settings.fields = [])
    (anywhere : compiler.BuildsAnywhere config)
    (operator : Operator)
    (value : RawValue)
    (outer : Attribute)
    (passed : List Attribute)
    (context : FieldType)
    (found : Attribute) :
    compiler.compileFound config operator value (outer :: passed) context found =
      outcomeWithin outer.name
        (compiler.compileFound config operator value passed context found) := by
  unfold compileFound
  cases declared : found.declared with
  | value type =>
      dsimp only
      rw [chosenStrategy_cons compiler noEntries, pathTo_cons, parse_within]
      have chosen :=
        anywhere _ (compiler.mayChoose_chosenStrategy config passed found type)
      have fitted := chosen.fit (context.fieldShape found.name)
      generalize StrategyTable.fit (compiler.chosenStrategy config passed found type)
        (context.fieldShape found.name) = strategy at fitted
      cases strategy.parse type (pathTo passed found).toText value with
      | error failure =>
          rfl
      | ok operand =>
          exact build_within fitted outer.name (pathTo passed found) operator operand
  | entity schema | «foreign» typeName =>
      dsimp only
      rw [pathTo_cons, FieldPath.toText_within]
      rfl

/--
A nested key is compiled as the rest of the key is on the nested type. The two
compilations succeed or fail together; the clause differs in that its path starts
with the declared name of the attribute, and the error in that a path in it does.
-/
theorem compile_nested
    (compiler : Compiler)
    (config : Config)
    (noEntries : config.settings.fields = [])
    (anywhere : compiler.BuildsAnywhere config)
    (segment : String)
    (notEmpty : segment.isEmpty = false)
    (noDot : '.' ∉ segment.toList)
    (found : Attribute)
    (denotes : compiler.root.denoted? segment = some found)
    (rest : String)
    (accepted : Key.wellFormed rest = true)
    (operator : Operator)
    (value : RawValue) :
    compiler.compile config ⟨segment ++ "." ++ rest, operator, value⟩ =
      outcomeWithin found.name
        ({ compiler with root := found.declared }.compile config ⟨rest, operator, value⟩) := by
  have segments := Key.segments_append_dot noDot rest
  have enclosing := Key.enclosing_append_dot noDot rest
  have terminal := Key.terminal_append_dot noDot rest
  -- Only what its segments are matters of the nested key.
  generalize segment ++ "." ++ rest = key at segments enclosing terminal ⊢
  have acceptedKey : Key.wellFormed key = true := by
    rw [Key.wellFormed_iff, segments, List.forall_mem_cons]
    exact ⟨notEmpty, (Key.wellFormed_iff rest).mp accepted⟩
  let inner : Compiler := { compiler with root := found.declared }
  change _ = outcomeWithin found.name (inner.compile config ⟨rest, operator, value⟩)
  rcases inner.root.route_or_stuckAt (Key.segments rest) with
    ⟨trail, target, route⟩ | ⟨index, context, stuck⟩
  · rw [← Key.enclosing_append_terminal] at route
    obtain ⟨passed, context, last, -, innerRoute, lastDenotes, -⟩ :=
      route.exists_of_append_singleton
    have outerRoute : compiler.root.Route (Key.enclosing key) (found :: passed) context := by
      rw [enclosing]
      exact .through denotes innerRoute
    have outerDenotes : context.denoted? (Key.terminal key) = some last := by
      rw [terminal]
      exact lastDenotes
    have alone : inner.compile config ⟨rest, operator, value⟩ =
        inner.compileFound config operator value passed context last :=
      @compile_of_route inner config ⟨rest, operator, value⟩ accepted passed context last
        innerRoute lastDenotes
    have nested : compiler.compile config ⟨key, operator, value⟩ =
        compiler.compileFound config operator value (found :: passed) context last :=
      @compile_of_route compiler config ⟨key, operator, value⟩ acceptedKey (found :: passed)
        context last outerRoute outerDenotes
    rw [alone, nested]
    exact compileFound_cons noEntries anywhere operator value found passed context last
  · obtain ⟨blamed, atIndex⟩ := stuck.exists_segment
    have outerStuck : compiler.root.StuckAt (Key.segments key) (index + 1) context := by
      rw [segments]
      exact .succ denotes stuck
    have atNext : (Key.segments key)[index + 1]? = some blamed := by
      rw [segments, List.getElem?_cons_succ]
      exact atIndex
    have alone : inner.compile config ⟨rest, operator, value⟩ =
        .error (.fieldNotFound blamed context.name) :=
      @compile_of_stuckAt inner config ⟨rest, operator, value⟩ accepted index context blamed
        stuck atIndex
    have nested : compiler.compile config ⟨key, operator, value⟩ =
        .error (.fieldNotFound blamed context.name) :=
      @compile_of_stuckAt compiler config ⟨key, operator, value⟩ acceptedKey (index + 1) context
        blamed outerStuck atNext
    rw [alone, nested]
    rfl

theorem buildsAnywhere_upperCased : upperCased.BuildsAnywhere {} :=
  forall_upperCased Strategy.buildsAnywhere_standard
    (Strategy.buildsAnywhere_of_uncheckedClause rfl)

/-- The code and the population of an address's country, the latter compared with no number. -/
theorem compile_nested_country :
    upperCased.compile {} ⟨"COUNTRY" ++ "." ++ "isocode", .eq, .single "fr"⟩ =
        .ok {
          path := ⟨["country"], "isoCode"⟩
          operator := .eq
          value := .ofText "FR"
        } ∧
      upperCased.compile {} ⟨"COUNTRY" ++ "." ++ "population", .gt, .single "many"⟩ =
        .error (.badInput "country.population" "Integer" (.integer .invalidDigit)) := by
  have denotes : upperCased.root.denoted? "COUNTRY" =
      some ⟨"country", .entity Record.Country.schema, none⟩ := rfl
  have nested := compile_nested upperCased {} rfl buildsAnywhere_upperCased "COUNTRY"
    (by decide) (by decide) _ denotes
  constructor
  · rw [nested "isocode" (by decide) .eq (.single "fr")]
    rfl
  · rw [nested "population" (by decide) .gt (.single "many")]
    rfl

end Compiler

end FieldSearch
