import FieldSearch.Compiler
import FieldSearch.Proofs.Key.Segments
import FieldSearch.Proofs.Path.Route

namespace FieldSearch

open Outcomes

/-!
# Stages of a compilation

A compilation is a walk along the key, and then, at the attribute that the key
leads to, a choice of strategy, a reading and a building. Each lemma describes
one stage in full, so that nothing later has to open the compiler again.
-/

/-- The enclosing segments of a well-formed key decide how it is resolved. -/
theorem resolve_of_wellFormed
    {key : String}
    (accepted : Key.wellFormed key = true)
    (root : FieldType) :
    resolve root key =
      (root.walk (Key.enclosing key)).map fun reached =>
        { segments := reached.1, context := reached.2, terminal := Key.terminal key } := by
  unfold resolve
  simp only [Key.terminal_isEmpty_of_wellFormed accepted, Bool.false_eq_true, ↓reduceIte]
  cases root.walk (Key.enclosing key) <;> rfl

/-- Walking one segment further requires the attribute it names. -/
theorem FieldType.walk_append_singleton
    (root : FieldType)
    (segments : List String)
    (last : String) :
    root.walk (segments ++ [last]) =
      root.walk segments >>= fun reached =>
        (reached.2.require last).map fun found =>
          (reached.1 ++ [found.name], found.declared) := by
  induction segments generalizing root with
  | nil =>
      simp only [List.nil_append, walk, pure, Except.pure, bind, Except.bind]
      cases root.require last <;> rfl
  | cons segment segments inductionHypothesis =>
      simp only [List.cons_append, walk, bind, Except.bind]
      cases root.require segment with
      | error failure =>
          rfl
      | ok found =>
          simp only [inductionHypothesis, bind, Except.bind]
          cases found.declared.walk segments with
          | error failure =>
              rfl
          | ok reached =>
              simp only [pure, Except.pure]
              cases reached.2.require last <;> rfl

namespace Compiler

/-- The path of an attribute behind the ones that a key has passed. -/
def pathTo (passed : List Attribute) (found : Attribute) : FieldPath :=
  { segments := passed.map (·.name), field := found.name }

theorem parts_pathTo
    (passed : List Attribute)
    (found : Attribute) :
    (pathTo passed found).parts = (passed ++ [found]).map (·.name) := by
  simp [pathTo, FieldPath.parts]

/-- A strategy that a compiler may choose under a configuration. -/
def MayChoose
    (compiler : Compiler)
    (config : Config)
    (strategy : Strategy) :
    Prop :=
  config.strategy = some strategy ∨
    ∃ kind caseSensitive, compiler.table.scalar kind caseSensitive = strategy

/-- Whether letter case counts for an attribute behind the ones passed. -/
def caseSensitiveAt
    (config : Config)
    (passed : List Attribute)
    (found : Attribute) :
    Bool :=
  config.settings.caseSensitiveFor (pathTo passed found).toText found.caseSensitive

/-- The strategy for single values of an attribute, whatever the field's shape. -/
def chosenStrategy
    (compiler : Compiler)
    (config : Config)
    (passed : List Attribute)
    (found : Attribute)
    (type : ValueType) :
    Strategy :=
  config.strategy.getD
    (compiler.table.scalar type.kind (caseSensitiveAt config passed found))

theorem mayChoose_chosenStrategy
    (compiler : Compiler)
    (config : Config)
    (passed : List Attribute)
    (found : Attribute)
    (type : ValueType) :
    compiler.MayChoose config
      (compiler.chosenStrategy config passed found type) := by
  unfold chosenStrategy
  cases custom : config.strategy with
  | none =>
      exact .inr ⟨_, _, rfl⟩
  | some strategy =>
      exact .inl custom

/--
What a compilation uses of its compiler, of the context of an attribute, and of the
attribute itself: the segments passed, the name, its shape, its letter case, and the
strategy that is selected by its type.
-/
theorem compileAttribute_congr
    {compiler other : Compiler}
    (config : Config)
    (criterion : Criterion)
    {resolved otherResolved : ResolvedKey}
    {found otherFound : Attribute}
    (segments : resolved.segments = otherResolved.segments)
    (name : found.name = otherFound.name)
    (shape :
      resolved.context.fieldShape found.name =
        otherResolved.context.fieldShape otherFound.name)
    (caseSensitive : found.caseSensitive = otherFound.caseSensitive)
    (selected : compiler.table.select found.declared = other.table.select otherFound.declared) :
    compiler.compileAttribute config criterion resolved found =
      other.compileAttribute config criterion otherResolved otherFound := by
  have target : resolved.fieldPath found.name = otherResolved.fieldPath otherFound.name := by
    rw [ResolvedKey.fieldPath, ResolvedKey.fieldPath, segments, name]
  unfold compileAttribute
  dsimp only
  rw [target, shape, caseSensitive, selected]

/-- What is left of a compilation once its key has led to an attribute of a context. -/
def compileFound
    (compiler : Compiler)
    (config : Config)
    (operator : Operator)
    (value : RawValue)
    (passed : List Attribute)
    (context : FieldType)
    (found : Attribute) :
    Except SearchError Clause :=
  match found.declared with
  | .value type =>
      let strategy :=
        StrategyTable.fit (compiler.chosenStrategy config passed found type)
          (context.fieldShape found.name)
      strategy.parse type (pathTo passed found).toText value >>=
        strategy.build (pathTo passed found) operator
  | _ => .error (.unsupportedType (pathTo passed found).toText found.declared.name)

/-- The letters of the terminal segment no longer matter once it has been looked up. -/
theorem compileAttribute_eq_compileFound
    (compiler : Compiler)
    (config : Config)
    (criterion : Criterion)
    (passed : List Attribute)
    (context : FieldType)
    (terminal : String)
    (found : Attribute) :
    compiler.compileAttribute config criterion
        { segments := passed.map (·.name), context := context, terminal := terminal } found =
      compiler.compileFound config criterion.operator criterion.value passed context found := by
  unfold compileAttribute compileFound StrategyTable.select
  cases found.declared <;> rfl

/-- A key that takes a route is compiled at the attribute the route ends with. -/
theorem compile_of_route
    (compiler : Compiler)
    (config : Config)
    {criterion : Criterion}
    (accepted : Key.wellFormed criterion.key = true)
    {passed : List Attribute}
    {context : FieldType}
    {found : Attribute}
    (route : compiler.root.Route criterion.enclosing passed context)
    (denotes : context.denoted? (Key.terminal criterion.key) = some found) :
    compiler.compile config criterion =
      compiler.compileFound config criterion.operator criterion.value passed context found := by
  have walked := route.walk_eq
  rw [Criterion.enclosing] at walked
  rw [compile, resolve_of_wellFormed accepted, walked]
  simp only [Except.map, bind, Except.bind]
  rw [FieldType.require_of_denoted? denotes]
  exact compileAttribute_eq_compileFound compiler config criterion passed context _ found

/-- A key that is stuck is answered by blaming the segment it is stuck at. -/
theorem compile_of_stuckAt
    (compiler : Compiler)
    (config : Config)
    {criterion : Criterion}
    (accepted : Key.wellFormed criterion.key = true)
    {index : Nat}
    {context : FieldType}
    {segment : String}
    (stuck : compiler.root.StuckAt criterion.segments index context)
    (atIndex : criterion.segments[index]? = some segment) :
    compiler.compile config criterion =
      .error (.fieldNotFound segment context.name) := by
  have walked := stuck.walk_eq atIndex
  rw [Criterion.segments, ← Key.enclosing_append_terminal,
    FieldType.walk_append_singleton, bind_eq_error] at walked
  rw [compile, resolve_of_wellFormed accepted]
  rcases walked with early | ⟨reached, enclosed, late⟩
  · rw [early]
    rfl
  · rw [map_eq_error] at late
    simp only [enclosed, Except.map, bind, Except.bind, late]

/-- A route along all segments ends with the attribute of the terminal one. -/
theorem exists_found_of_route
    {compiler : Compiler}
    {criterion : Criterion}
    {trail : List Attribute}
    {target : FieldType}
    (route : compiler.root.Route criterion.segments trail target) :
    ∃ passed context found,
      trail = passed ++ [found] ∧
        compiler.root.Route criterion.enclosing passed context ∧
          context.denoted? (Key.terminal criterion.key) = some found ∧
            found.declared = target := by
  rw [Criterion.segments, ← Key.enclosing_append_terminal] at route
  exact route.exists_of_append_singleton

/-- A key leads to an attribute that its last segment denotes behind the others. -/
structure LeadsTo
    (root : FieldType)
    (key : String)
    (passed : List Attribute)
    (context : FieldType)
    (found : Attribute) :
    Prop where
  route : root.Route (Key.enclosing key) passed context
  denotes : context.denoted? (Key.terminal key) = some found

/-- A key whose segments are known leads to what the last one denotes behind the others. -/
theorem leadsTo_of_segments
    {root : FieldType}
    {key : String}
    {segments : List String}
    {last : String}
    (split : Key.segments key = segments ++ [last])
    {passed : List Attribute}
    {context : FieldType}
    {found : Attribute}
    (route : root.Route segments passed context)
    (denotes : context.denoted? last = some found) :
    LeadsTo root key passed context found := by
  rw [← Key.enclosing_append_terminal] at split
  obtain ⟨rfl, terminal⟩ := List.append_inj' split rfl
  obtain rfl := List.singleton_inj.mp terminal
  exact ⟨route, denotes⟩

/-- A key without dots leads to what it denotes in the root itself. -/
theorem leadsTo_of_dot_not_mem
    {root : FieldType}
    {key : String}
    (absent : '.' ∉ key.toList)
    {found : Attribute}
    (denotes : root.denoted? key = some found) :
    LeadsTo root key [] root found := by
  have split : Key.segments key = [] ++ [key] := Key.segments_of_dot_not_mem absent
  exact leadsTo_of_segments split (.stay root) denotes

/-- Keys that lead to an attribute take a route to its declared type. -/
theorem LeadsTo.route_segments
    {root : FieldType}
    {key : String}
    {passed : List Attribute}
    {context : FieldType}
    {found : Attribute}
    (leads : LeadsTo root key passed context found) :
    root.Route (Key.segments key) (passed ++ [found]) found.declared := by
  rw [← Key.enclosing_append_terminal]
  exact leads.route.append (.through leads.denotes (.stay found.declared))

/-- A key leads to some attribute or is stuck at one of its segments. -/
theorem leadsTo_or_stuckAt
    (root : FieldType)
    (key : String) :
    (∃ passed context found, LeadsTo root key passed context found) ∨
      ∃ index context, root.StuckAt (Key.segments key) index context := by
  rcases root.route_or_stuckAt (Key.segments key) with
    ⟨trail, target, route⟩ | stuck
  · rw [← Key.enclosing_append_terminal] at route
    obtain ⟨passed, context, found, -, enclosing, denotes, -⟩ :=
      route.exists_of_append_singleton
    exact .inl ⟨passed, context, found, enclosing, denotes⟩
  · exact .inr stuck

/-- A key that leads to an attribute is compiled there. -/
theorem compile_of_leadsTo
    (compiler : Compiler)
    (config : Config)
    {key : String}
    (accepted : Key.wellFormed key = true)
    {passed : List Attribute}
    {context : FieldType}
    {found : Attribute}
    (leads : LeadsTo compiler.root key passed context found)
    (operator : Operator)
    (value : RawValue) :
    compiler.compile config ⟨key, operator, value⟩ =
      compiler.compileFound config operator value passed context found :=
  @compile_of_route compiler config ⟨key, operator, value⟩ accepted passed context found
    leads.route leads.denotes

/-- The key alone decides at which attribute a compilation arrives, or where it is stuck. -/
theorem compile_by_key
    (compiler : Compiler)
    {key : String}
    (accepted : Key.wellFormed key = true) :
    (∃ passed context found, ∀ config operator value,
      compiler.compile config ⟨key, operator, value⟩ =
        compiler.compileFound config operator value passed context found) ∨
      ∃ field schema, ∀ config operator value,
        compiler.compile config ⟨key, operator, value⟩ = .error (.fieldNotFound field schema) := by
  rcases leadsTo_or_stuckAt compiler.root key with
    ⟨passed, context, found, leads⟩ | ⟨index, context, stuck⟩
  · refine .inl ⟨passed, context, found, ?_⟩
    intro config operator value
    exact compiler.compile_of_leadsTo config accepted leads operator value
  · obtain ⟨segment, atIndex⟩ := stuck.exists_segment
    refine .inr ⟨segment, context.name, ?_⟩
    intro config operator value
    exact @compile_of_stuckAt compiler config ⟨key, operator, value⟩ accepted index context
      segment stuck atIndex

/-- The strategy for an attribute, fitted to the shape of the field. -/
def selectedStrategy
    (compiler : Compiler)
    (config : Config)
    (passed : List Attribute)
    (context : FieldType)
    (found : Attribute)
    (type : ValueType) :
    Strategy :=
  StrategyTable.fit (compiler.chosenStrategy config passed found type)
    (context.fieldShape found.name)

section Found

variable
  (compiler : Compiler)
  (config : Config)
  (operator : Operator)
  (value : RawValue)
  (passed : List Attribute)
  (context : FieldType)
  {found : Attribute}

/-- Attributes whose types are not types of values cannot be searched. -/
theorem compileFound_of_no_value
    (noValue : ∀ type, found.declared ≠ .value type) :
    compiler.compileFound config operator value passed context found =
      .error (.unsupportedType (pathTo passed found).toText found.declared.name) := by
  unfold compileFound
  split
  · next type declared =>
      exact absurd declared (noValue type)
  · rfl

/-- A value that the selected strategy cannot read is reported for the field. -/
theorem compileFound_of_readRaw_eq_error
    {type : ValueType}
    (declared : found.declared = .value type)
    {cause : ConversionError}
    (refused :
      (compiler.selectedStrategy config passed context found type).readRaw type value =
        .error cause) :
    compiler.compileFound config operator value passed context found =
      .error (.badInput (pathTo passed found).toText type.name cause) := by
  rw [selectedStrategy] at refused
  simp only [compileFound, declared, Strategy.parse, refused]
  rfl

/-- A value that the selected strategy reads is what it builds the clause on. -/
theorem compileFound_of_readRaw_eq_ok
    {type : ValueType}
    (declared : found.declared = .value type)
    {operand : Operand}
    (read :
      (compiler.selectedStrategy config passed context found type).readRaw type value =
        .ok operand) :
    compiler.compileFound config operator value passed context found =
      (compiler.selectedStrategy config passed context found type).build
        (pathTo passed found) operator operand := by
  rw [selectedStrategy] at read ⊢
  simp only [compileFound, declared, Strategy.parse, read]
  rfl

end Found

end Compiler

end FieldSearch
