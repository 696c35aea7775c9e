import FieldSearch.Proofs.Compiler.Stages
import FieldSearch.Proofs.Strategy.Building
import FieldSearch.Record.Developer

namespace FieldSearch.Compiler

open Outcomes

/-!
# Resolution of keys

A compilation reports a missing field exactly for the first segment of the key
that denotes nothing, and the path of a clause lists the declared names of the
attributes that the key has passed. The letter case of a key is therefore
irrelevant, and the text of a clause's path is a key for the same clause.
-/

/-- What a compilation may rely on in its strategies: every clause is on its target. -/
def KeepsTargets (compiler : Compiler) (config : Config) : Prop :=
  ∀ strategy, compiler.MayChoose config strategy → strategy.KeepsTarget

/-- What a compilation may rely on in its strategies: none looks a field up. -/
def LooksNothingUp (compiler : Compiler) (config : Config) : Prop :=
  ∀ strategy, compiler.MayChoose config strategy → strategy.LooksNothingUp

/-- The standard strategies keep their targets. -/
theorem keepsTargets_standard
    (root : FieldType)
    {config : Config}
    (noCustom : config.strategy = none) :
    KeepsTargets { root := root } config := by
  rintro strategy (custom | ⟨kind, caseSensitive, rfl⟩)
  · rw [noCustom] at custom
    cases custom
  · exact Strategy.keepsTarget_standard kind caseSensitive

/-- A clause is compiled from a value type, and by building on a value that was read. -/
theorem compileFound_eq_ok
    {compiler : Compiler}
    {config : Config}
    {operator : Operator}
    {value : RawValue}
    {passed : List Attribute}
    {context : FieldType}
    {found : Attribute}
    {clause : Clause}
    (compiled :
      compiler.compileFound config operator value passed context found = .ok clause) :
    ∃ type operand,
      found.declared = .value type ∧
        (StrategyTable.fit (compiler.chosenStrategy config passed found type)
            (context.fieldShape found.name)).readRaw type value = .ok operand ∧
          (StrategyTable.fit (compiler.chosenStrategy config passed found type)
              (context.fieldShape found.name)).build
            (pathTo passed found) operator operand = .ok clause := by
  unfold compileFound at compiled
  split at compiled
  · next type declared =>
      obtain ⟨operand, parsed, built⟩ := bind_eq_ok.mp compiled
      exact ⟨type, operand, declared, mapError_eq_ok.mp parsed, built⟩
  · cases compiled

theorem path_of_compileFound
    {compiler : Compiler}
    {config : Config}
    (keepsTargets : compiler.KeepsTargets config)
    {operator : Operator}
    {value : RawValue}
    {passed : List Attribute}
    {context : FieldType}
    {found : Attribute}
    {clause : Clause}
    (compiled :
      compiler.compileFound config operator value passed context found = .ok clause) :
    clause.path = pathTo passed found := by
  obtain ⟨type, operand, -, -, built⟩ := compileFound_eq_ok compiled
  have keeps :=
    keepsTargets _ (compiler.mayChoose_chosenStrategy config passed found type)
  exact keeps.fit (context.fieldShape found.name) _ operator operand clause built

/-- Once an attribute has been found, no field is reported as missing. -/
theorem compileFound_ne_fieldNotFound
    {compiler : Compiler}
    {config : Config}
    (looksNothingUp : compiler.LooksNothingUp config)
    (operator : Operator)
    (value : RawValue)
    (passed : List Attribute)
    (context : FieldType)
    (found : Attribute)
    (field schema : String) :
    compiler.compileFound config operator value passed context found ≠
      .error (.fieldNotFound field schema) := by
  intro failed
  unfold compileFound at failed
  split at failed
  · next type _ =>
      rcases bind_eq_error.mp failed with notRead | ⟨operand, -, notBuilt⟩
      · obtain ⟨cause, -, impossible⟩ := mapError_eq_error.mp notRead
        cases impossible
      · have looks :=
          looksNothingUp _ (compiler.mayChoose_chosenStrategy config passed found type)
        exact looks.fit (context.fieldShape found.name) _ operator operand field schema
          notBuilt
  · cases failed

/-- A compilation that succeeds has gone along a route. -/
theorem exists_route_of_compile_eq_ok
    {compiler : Compiler}
    {config : Config}
    (criterion : Criterion)
    (accepted : Key.wellFormed criterion.key = true)
    {clause : Clause}
    (compiled : compiler.compile config criterion = .ok clause) :
    ∃ passed context found,
      compiler.root.Route criterion.segments (passed ++ [found]) found.declared ∧
        compiler.compileFound config criterion.operator criterion.value
          passed context found = .ok clause := by
  rcases compiler.root.route_or_stuckAt criterion.segments with
    ⟨trail, target, route⟩ | ⟨index, context, stuck⟩
  · obtain ⟨passed, context, found, rfl, enclosing, denotes, rfl⟩ :=
      exists_found_of_route route
    rw [compiler.compile_of_route config accepted enclosing denotes] at compiled
    exact ⟨passed, context, found, route, compiled⟩
  · obtain ⟨segment, atIndex⟩ := stuck.exists_segment
    rw [compiler.compile_of_stuckAt config accepted stuck atIndex] at compiled
    cases compiled

/--
Missing fields are reported exactly: a compilation fails for a missing field if
and only if the key takes no route, and it then blames the first segment that
denotes nothing, as it is written in the key, together with the type in which it
was looked up. Where the key takes a route, the parts of a clause's path are the
declared names of the attributes passed.
-/
theorem compile_blames_first_unknown_segment
    (compiler : Compiler)
    (config : Config)
    (criterion : Criterion)
    (accepted : Key.wellFormed criterion.key = true)
    (keepsTargets : compiler.KeepsTargets config)
    (looksNothingUp : compiler.LooksNothingUp config) :
    (∀ field schema,
      compiler.compile config criterion = .error (.fieldNotFound field schema) ↔
        ∃ index trail context,
          compiler.root.Route (criterion.segments.take index) trail context ∧
            criterion.segments[index]? = some field ∧
              context.denoted? field = none ∧
                schema = context.name) ∧
      ((∀ field schema,
          compiler.compile config criterion ≠ .error (.fieldNotFound field schema)) ↔
        ∃ trail target, compiler.root.Route criterion.segments trail target) ∧
      ∀ clause,
        compiler.compile config criterion = .ok clause →
          ∃ trail target,
            compiler.root.Route criterion.segments trail target ∧
              clause.path.parts = trail.map (·.name) := by
  have found_of_route :
      ∀ {trail target},
        compiler.root.Route criterion.segments trail target →
          ∀ field schema,
            compiler.compile config criterion ≠ .error (.fieldNotFound field schema) := by
    intro trail target route field schema
    obtain ⟨passed, context, found, -, enclosing, denotes, -⟩ := exists_found_of_route route
    rw [compiler.compile_of_route config accepted enclosing denotes]
    exact compileFound_ne_fieldNotFound looksNothingUp _ _ passed context found field schema
  refine ⟨?_, ?_, ?_⟩
  · intro field schema
    constructor
    · intro failed
      rcases compiler.root.route_or_stuckAt criterion.segments with
        ⟨trail, target, route⟩ | ⟨index, context, stuck⟩
      · exact absurd failed (found_of_route route field schema)
      · obtain ⟨trail, segment, route, atIndex, denotesNothing⟩ := stuck
        have blamed :=
          compiler.compile_of_stuckAt config accepted
            ⟨trail, segment, route, atIndex, denotesNothing⟩ atIndex
        rw [failed] at blamed
        cases blamed
        exact ⟨index, trail, context, route, atIndex, denotesNothing, rfl⟩
    · rintro ⟨index, trail, context, route, atIndex, denotesNothing, rfl⟩
      exact compiler.compile_of_stuckAt config accepted
        ⟨trail, field, route, atIndex, denotesNothing⟩ atIndex
  · constructor
    · intro neverMissing
      rcases compiler.root.route_or_stuckAt criterion.segments with
        resolved | ⟨index, context, stuck⟩
      · exact resolved
      · obtain ⟨segment, atIndex⟩ := stuck.exists_segment
        exact absurd (compiler.compile_of_stuckAt config accepted stuck atIndex)
          (neverMissing segment context.name)
    · rintro ⟨trail, target, route⟩
      exact found_of_route route
  · intro clause compiled
    obtain ⟨passed, context, found, route, built⟩ :=
      exists_route_of_compile_eq_ok criterion accepted compiled
    refine ⟨passed ++ [found], found.declared, route, ?_⟩
    rw [path_of_compileFound keepsTargets built, parts_pathTo]

/-- A compiler for addresses with another strategy for texts than the standard one. -/
def upperCased : Compiler where
  root := .entity Record.Address.schema
  table := StrategyTable.standard.register .text .upper

/-- What holds of the standard strategies and of the other one holds of all that are chosen. -/
theorem forall_upperCased
    {property : Strategy → Prop}
    (holds : ∀ kind caseSensitive, property (StrategyTable.standard.scalar kind caseSensitive))
    (holdsOfUpper : property .upper)
    (strategy : Strategy)
    (mayChoose : upperCased.MayChoose {} strategy) :
    property strategy := by
  rcases mayChoose with custom | ⟨kind, caseSensitive, chosen⟩
  · cases custom
  · rw [← chosen]
    exact StrategyTable.forall_scalar_register holds holdsOfUpper .text kind caseSensitive

theorem keepsTargets_upperCased : upperCased.KeepsTargets {} :=
  forall_upperCased Strategy.keepsTarget_standard (Strategy.keepsTarget_of_uncheckedClause rfl)

theorem looksNothingUp_upperCased : upperCased.LooksNothingUp {} :=
  forall_upperCased
    (fun kind caseSensitive => (Strategy.blamesClauses_standard kind caseSensitive).looksNothingUp)
    (Strategy.blamesClauses_of_uncheckedClause rfl).looksNothingUp

/-- A country has no attribute `Code`, which is blamed as it is written. -/
theorem compile_blames_countryCode :
    Key.wellFormed "COUNTRY.Code" = true ∧
      upperCased.compile {} ⟨"COUNTRY.Code", .eq, .single "fr"⟩ =
        .error (.fieldNotFound "Code" "Country") := by
  have accepted : Key.wellFormed "COUNTRY.Code" = true := by decide
  have split : Key.segments "COUNTRY.Code" = ["COUNTRY", "Code"] := by decide
  refine ⟨accepted, ?_⟩
  rw [(compile_blames_first_unknown_segment upperCased {} ⟨"COUNTRY.Code", .eq, .single "fr"⟩
    accepted keepsTargets_upperCased looksNothingUp_upperCased).1]
  let country : Attribute := ⟨"country", .entity Record.Country.schema, none⟩
  refine ⟨1, [country], country.declared, ?_, ?_, rfl, rfl⟩
  · rw [Criterion.segments, split]
    exact .through rfl (.stay _)
  · rw [Criterion.segments, split]
    rfl

/-- The parts of a compiled path are well-formed segments of a key. -/
theorem parts_of_compile_eq_ok
    {compiler : Compiler}
    {config : Config}
    (keepsTargets : compiler.KeepsTargets config)
    (criterion : Criterion)
    (accepted : Key.wellFormed criterion.key = true)
    {clause : Clause}
    (compiled : compiler.compile config criterion = .ok clause) :
    ∀ part ∈ clause.path.parts, '.' ∉ part.toList ∧ part.isEmpty = false := by
  obtain ⟨passed, context, found, route, built⟩ :=
    exists_route_of_compile_eq_ok criterion accepted compiled
  rw [path_of_compileFound keepsTargets built, parts_pathTo]
  refine route.forall_names ?_ ?_
  · rintro left right same ⟨noDot, notEmpty⟩
    rw [isEmpty_eq_of_sameLetters same, ← List.count_eq_zero,
      count_eq_of_sameLetters (by decide) same, List.count_eq_zero]
    exact ⟨noDot, notEmpty⟩
  · intro segment member
    exact ⟨Key.dot_not_mem_segment member,
      (Key.wellFormed_iff criterion.key).mp accepted segment member⟩

/-- Keys that take routes past the same attributes are compiled alike. -/
theorem compile_eq_of_routes
    (compiler : Compiler)
    (config : Config)
    {left right : Criterion}
    (sameOperator : left.operator = right.operator)
    (sameValue : left.value = right.value)
    (acceptedLeft : Key.wellFormed left.key = true)
    (acceptedRight : Key.wellFormed right.key = true)
    {trail : List Attribute}
    {target other : FieldType}
    (route : compiler.root.Route left.segments trail target)
    (otherRoute : compiler.root.Route right.segments trail other) :
    compiler.compile config left = compiler.compile config right := by
  obtain ⟨passed, context, found, isTrail, enclosing, denotes, -⟩ :=
    exists_found_of_route route
  obtain ⟨passedAgain, contextAgain, foundAgain, isTrailAgain, enclosingAgain,
      denotesAgain, -⟩ :=
    exists_found_of_route otherRoute
  rw [isTrail] at isTrailAgain
  obtain ⟨rfl, isFound⟩ := List.append_inj' isTrailAgain rfl
  cases isFound
  obtain rfl : context = contextAgain := enclosing.target_unique enclosingAgain
  rw [compiler.compile_of_route config acceptedLeft enclosing denotes,
    compiler.compile_of_route config acceptedRight enclosingAgain denotesAgain,
    sameOperator, sameValue]

/-- Keys with the same letters are compiled alike, or stuck at the same segment. -/
theorem compile_respell
    (compiler : Compiler)
    (config : Config)
    {left right : Criterion}
    (sameOperator : left.operator = right.operator)
    (sameValue : left.value = right.value)
    (acceptedLeft : Key.wellFormed left.key = true)
    (acceptedRight : Key.wellFormed right.key = true)
    (sameSegments :
      List.Forall₂ (fun first second => sameLetters first second = true)
        left.segments right.segments) :
    compiler.compile config left = compiler.compile config right ∨
      ∃ (index : Nat) (first second schema : String),
        left.segments[index]? = some first ∧
          right.segments[index]? = some second ∧
            compiler.compile config left = .error (.fieldNotFound first schema) ∧
              compiler.compile config right = .error (.fieldNotFound second schema) := by
  rcases compiler.root.route_or_stuckAt left.segments with
    ⟨trail, target, route⟩ | ⟨index, context, stuck⟩
  · left
    exact compiler.compile_eq_of_routes config sameOperator sameValue
      acceptedLeft acceptedRight route (route.respell sameSegments)
  · right
    obtain ⟨first, atIndex⟩ := stuck.exists_segment
    have respelled := stuck.respell sameSegments
    obtain ⟨second, respelledAtIndex⟩ := respelled.exists_segment
    exact ⟨index, first, second, context.name, atIndex, respelledAtIndex,
      compiler.compile_of_stuckAt config acceptedLeft stuck atIndex,
      compiler.compile_of_stuckAt config acceptedRight respelled respelledAtIndex⟩

/-- The text of a compiled path is a well-formed key with the parts as its segments. -/
theorem key_of_compile_eq_ok
    {compiler : Compiler}
    {config : Config}
    (keepsTargets : compiler.KeepsTargets config)
    (criterion : Criterion)
    (accepted : Key.wellFormed criterion.key = true)
    {clause : Clause}
    (compiled : compiler.compile config criterion = .ok clause) :
    Key.segments clause.path.toText = clause.path.parts ∧
      Key.wellFormed clause.path.toText = true := by
  have plainParts := parts_of_compile_eq_ok keepsTargets criterion accepted compiled
  have segmentsOfText : Key.segments clause.path.toText = clause.path.parts :=
    Key.segments_join (by simp [FieldPath.parts]) fun part member =>
      (plainParts part member).1
  refine ⟨segmentsOfText, ?_⟩
  rw [Key.wellFormed_iff, segmentsOfText]
  exact fun part member => (plainParts part member).2

/--
The spelling of a key is irrelevant, and compiled paths are canonical. Two keys
whose segments have the same letters have one outcome, except that a missing
field is reported as each key spells it. And the text of a compiled path splits
into the path's parts and is itself a key for the same clause.
-/
theorem compile_ignores_spelling
    (compiler : Compiler)
    (config : Config)
    (operator : Operator)
    (value : RawValue) :
    (∀ left right,
      Key.wellFormed left = true →
        Key.wellFormed right = true →
          List.Forall₂ (fun first second => sameLetters first second = true)
              (Key.segments left) (Key.segments right) →
            compiler.compile config ⟨left, operator, value⟩ =
                compiler.compile config ⟨right, operator, value⟩ ∨
              ∃ (index : Nat) (first second schema : String),
                (Key.segments left)[index]? = some first ∧
                  (Key.segments right)[index]? = some second ∧
                    compiler.compile config ⟨left, operator, value⟩ =
                        .error (.fieldNotFound first schema) ∧
                      compiler.compile config ⟨right, operator, value⟩ =
                        .error (.fieldNotFound second schema)) ∧
      (compiler.KeepsTargets config →
        ∀ key clause,
          Key.wellFormed key = true →
            compiler.compile config ⟨key, operator, value⟩ = .ok clause →
              Key.segments clause.path.toText = clause.path.parts ∧
                Key.wellFormed clause.path.toText = true ∧
                  compiler.compile config ⟨clause.path.toText, operator, value⟩ =
                    .ok clause) := by
  constructor
  · intro left right acceptedLeft acceptedRight sameSegments
    exact compiler.compile_respell config rfl rfl acceptedLeft acceptedRight sameSegments
  · intro keepsTargets key clause accepted compiled
    obtain ⟨segmentsOfText, acceptedText⟩ :=
      key_of_compile_eq_ok keepsTargets ⟨key, operator, value⟩ accepted compiled
    refine ⟨segmentsOfText, acceptedText, ?_⟩
    obtain ⟨passed, context, found, route, built⟩ :=
      exists_route_of_compile_eq_ok ⟨key, operator, value⟩ accepted compiled
    have partsAreNames :
        Key.segments clause.path.toText = (passed ++ [found]).map (·.name) := by
      rw [segmentsOfText, path_of_compileFound keepsTargets built, parts_pathTo]
    have again := route.declaredNames
    rw [← partsAreNames] at again
    rw [← compiled]
    exact compiler.compile_eq_of_routes config rfl rfl acceptedText accepted again route

/-- Two spellings of the path to the code of a country, and the text it is compiled to. -/
theorem compile_ignores_spelling_isoCode :
    upperCased.compile {} ⟨"COUNTRY.isocode", .eq, .single "fr"⟩ =
        upperCased.compile {} ⟨"country.ISOCODE", .eq, .single "fr"⟩ ∧
      upperCased.compile {} ⟨"country.isoCode", .eq, .single "fr"⟩ =
        .ok {
          path := ⟨["country"], "isoCode"⟩
          operator := .eq
          value := .ofText "FR"
        } := by
  have ⟨respelled, canonical⟩ := compile_ignores_spelling upperCased {} .eq (.single "fr")
  have sameSegments :
      List.Forall₂ (fun first second => sameLetters first second = true)
        (Key.segments "COUNTRY.isocode") (Key.segments "country.ISOCODE") := by
    have left : Key.segments "COUNTRY.isocode" = ["COUNTRY", "isocode"] := by decide
    have right : Key.segments "country.ISOCODE" = ["country", "ISOCODE"] := by decide
    rw [left, right]
    exact .cons rfl (.cons rfl .nil)
  have compiled :
      upperCased.compile {} ⟨"COUNTRY.isocode", .eq, .single "fr"⟩ =
        .ok {
          path := ⟨["country"], "isoCode"⟩
          operator := .eq
          value := .ofText "FR"
        } := rfl
  constructor
  · rcases respelled "COUNTRY.isocode" "country.ISOCODE" (by decide) (by decide) sameSegments with
      same | ⟨_, _, _, _, -, -, failed, -⟩
    · exact same
    · rw [compiled] at failed
      cases failed
  · exact (canonical keepsTargets_upperCased _ _ (by decide) compiled).2.2

end FieldSearch.Compiler
