import FieldSearch.Proofs.Outcomes
import FieldSearch.Strategy.Table

namespace FieldSearch

open Outcomes

/-!
# Building clauses

What the strategies of this library build, and what they refuse. A set operator
or a list makes a membership test; any other operator is kept as it is. Either
way the clause is on the field it was asked for, and building never looks a
field up.
-/

/-- An operator that tests membership in a set by its own name. -/
def Operator.IsSetTest (operator : Operator) : Prop :=
  operator = .isIn ∨ operator = .notIn

instance : DecidablePred Operator.IsSetTest :=
  fun operator => inferInstanceAs (Decidable (operator = .isIn ∨ operator = .notIn))

/-- An error about the operator or the pattern of a search. -/
def SearchError.IsRefusal (failure : SearchError) : Prop :=
  (∃ operator kind, failure = .invalidOperator operator kind) ∨
    ∃ pattern, failure = .invalidPattern pattern

/-- The membership form of an operator is a set test. -/
theorem Operator.isSetTest_of_asMembership?
    {operator membership : Operator}
    (form : operator.asMembership? = some membership) :
    membership.IsSetTest := by
  cases operator <;>
    simp only [asMembership?, normalize, Option.some.injEq, reduceCtorEq] at form <;>
    simp [IsSetTest, ← form]

/-- A set test is the membership form of itself. -/
theorem Operator.IsSetTest.asMembership?_eq
    {operator : Operator}
    (setTest : operator.IsSetTest) :
    operator.asMembership? = some operator := by
  rcases setTest with rfl | rfl <;> rfl

namespace Strategy

/-- The clauses of single-value strategies are membership tests or keep their operator. -/
theorem scalarClause_eq_ok
    {kind : String}
    {admitted : Operator → Bool}
    {target : FieldPath}
    {operator : Operator}
    {value : Operand}
    {clause : Clause}
    (built : scalarClause kind admitted target operator value = .ok clause) :
    (∃ membership,
      operator.asMembership? = some membership ∧
        admitted membership = true ∧
          clause = { path := target, operator := membership, value := value.intoList }) ∨
      (¬ operator.IsSetTest ∧
        value.isList = false ∧
          admitted operator = true ∧
            clause = { path := target, operator := operator, value := value }) := by
  unfold scalarClause at built
  split at built
  · cases form : operator.asMembership? with
    | none =>
        simp [form] at built
    | some membership =>
        simp only [form] at built
        split at built
        · next isAdmitted =>
            cases built
            exact .inl ⟨membership, rfl, isAdmitted, rfl⟩
        · cases built
  · next single =>
      simp only [Bool.or_eq_true, beq_iff_eq, not_or, Bool.not_eq_true] at single
      split at built
      · next isAdmitted =>
          cases built
          exact .inr ⟨by simp [Operator.IsSetTest, single.1], single.2, isAdmitted, rfl⟩
      · cases built

/-- Single-value strategies refuse operators and nothing else. -/
theorem scalarClause_eq_error
    {kind : String}
    {admitted : Operator → Bool}
    {target : FieldPath}
    {operator : Operator}
    {value : Operand}
    {failure : SearchError}
    (refused : scalarClause kind admitted target operator value = .error failure) :
    failure = .invalidOperator operator kind := by
  unfold scalarClause at refused
  repeat' split at refused
  all_goals cases refused
  all_goals rfl

/-- A pattern keeps what it is compiled from. -/
theorem eq_of_compileWith?
    {options : Pattern.Options}
    {source : String}
    {anyCase : Bool}
    {pattern : Pattern}
    (compiled : Pattern.compileWith? options source anyCase = some pattern) :
    pattern.source = source ∧ pattern.anyCase = anyCase ∧ pattern.options = options := by
  unfold Pattern.compileWith? at compiled
  split at compiled
  · cases compiled
    exact ⟨rfl, rfl, rfl⟩
  · cases compiled

/-- A pattern search is built on a single value that is a valid pattern. -/
theorem patternClause_eq_ok
    {caseSensitive : Bool}
    {target : FieldPath}
    {value : Operand}
    {clause : Clause}
    (built : patternClause caseSensitive target value = .ok clause) :
    ∃ pattern,
      value.isList = false ∧
        Pattern.compile? (value.asText?.getD "") (!caseSensitive) = some pattern ∧
          clause = {
            path := target
            operator := .regex
            value := value
            caseSensitive := caseSensitive
            pattern := some pattern
          } := by
  unfold patternClause at built
  split at built
  · cases built
  · next single =>
      cases compiled : Pattern.compile? (value.asText?.getD "") (!caseSensitive) with
      | none =>
          simp [compiled] at built
      | some pattern =>
          simp only [compiled, Except.ok.injEq] at built
          exact ⟨pattern, by simpa using single, rfl, built.symm⟩

/-- A pattern search is refused for a list or for an invalid pattern. -/
theorem patternClause_eq_error
    {caseSensitive : Bool}
    {target : FieldPath}
    {value : Operand}
    {failure : SearchError}
    (refused : patternClause caseSensitive target value = .error failure) :
    failure = .invalidOperator .regex ValueKind.text.name ∨
      failure = .invalidPattern (value.asText?.getD "") := by
  unfold patternClause at refused
  split at refused
  · cases refused
    exact .inl rfl
  · cases compiled : Pattern.compile? (value.asText?.getD "") (!caseSensitive) with
    | none =>
        simp only [compiled, Except.error.injEq] at refused
        exact .inr refused.symm
    | some pattern =>
        simp [compiled] at refused

/-- Clauses over texts are pattern searches or those of any single-value strategy. -/
theorem textClause_eq_ok
    {caseSensitive : Bool}
    {target : FieldPath}
    {operator : Operator}
    {value : Operand}
    {clause : Clause}
    (built : textClause caseSensitive target operator value = .ok clause) :
    (operator = .regex ∧ patternClause caseSensitive target value = .ok clause) ∨
      (operator ≠ .regex ∧
        ∃ plain,
          scalarClause ValueKind.text.name Operator.isText target operator value = .ok plain ∧
            clause = { plain with caseSensitive := caseSensitive }) := by
  unfold textClause at built
  split at built
  · next isPattern =>
      exact .inl ⟨isPattern, built⟩
  · next notPattern =>
      obtain ⟨plain, plainBuilt, rfl⟩ := map_eq_ok.mp built
      exact .inr ⟨notPattern, plain, plainBuilt, rfl⟩

/-- A collection is searched by the membership form of its operator. -/
theorem collection_build_eq_ok
    {element : Strategy}
    {target : FieldPath}
    {operator : Operator}
    {value : Operand}
    {clause : Clause}
    (built : element.collection.build target operator value = .ok clause) :
    ∃ membership inner,
      operator.asMembership? = some membership ∧
        element.build target membership value.intoList = .ok inner ∧
          clause = { inner with shape := .collection } := by
  simp only [collection] at built
  split at built
  · next membership form =>
      obtain ⟨inner, innerBuilt, rfl⟩ := map_eq_ok.mp built
      exact ⟨membership, inner, form, innerBuilt, rfl⟩
  · cases built

/-! What compilers rely on in strategies, those from elsewhere included. -/

/-- The clause that a strategy builds is on the field it was asked for. -/
def KeepsTarget (strategy : Strategy) : Prop :=
  ∀ target operator value clause,
    strategy.build target operator value = .ok clause →
      clause.path = target

/-- A strategy does not report fields as missing from a schema. -/
def LooksNothingUp (strategy : Strategy) : Prop :=
  ∀ target operator value field schema,
    strategy.build target operator value ≠ .error (.fieldNotFound field schema)

/-- A strategy refuses clauses for their operators and their patterns alone. -/
def BlamesClauses (strategy : Strategy) : Prop :=
  ∀ target operator value failure,
    strategy.build target operator value = .error failure →
      failure.IsRefusal

theorem BlamesClauses.looksNothingUp
    {strategy : Strategy}
    (blames : strategy.BlamesClauses) :
    strategy.LooksNothingUp := by
  intro target operator value field schema refused
  rcases blames target operator value _ refused with ⟨_, _, impossible⟩ | ⟨_, impossible⟩ <;>
    cases impossible

theorem KeepsTarget.fit
    {strategy : Strategy}
    (keeps : strategy.KeepsTarget)
    (shape : FieldShape) :
    (StrategyTable.fit strategy shape).KeepsTarget := by
  intro target operator value clause built
  cases shape with
  | scalar =>
      exact keeps target operator value clause built
  | collection =>
      obtain ⟨membership, inner, -, innerBuilt, rfl⟩ := collection_build_eq_ok built
      exact keeps target membership value.intoList inner innerBuilt

theorem LooksNothingUp.fit
    {strategy : Strategy}
    (looksNothingUp : strategy.LooksNothingUp)
    (shape : FieldShape) :
    (StrategyTable.fit strategy shape).LooksNothingUp := by
  intro target operator value field schema refused
  cases shape with
  | scalar =>
      exact looksNothingUp target operator value field schema refused
  | collection =>
      simp only [StrategyTable.fit, collection] at refused
      split at refused
      · next membership _ =>
          rw [map_eq_error] at refused
          exact looksNothingUp target membership value.intoList field schema refused
      · cases refused

theorem BlamesClauses.collection
    {element : Strategy}
    (blames : element.BlamesClauses) :
    element.collection.BlamesClauses := by
  intro target operator value failure refused
  simp only [Strategy.collection] at refused
  split at refused
  · next membership _ =>
      rw [map_eq_error] at refused
      exact blames target membership value.intoList failure refused
  · cases refused
    exact .inl ⟨operator, "Collection", rfl⟩

theorem keepsTarget_of_scalarClause
    {strategy : Strategy}
    {kind : String}
    {admitted : Operator → Bool}
    (builds : strategy.build = scalarClause kind admitted) :
    strategy.KeepsTarget := by
  intro target operator value clause built
  rw [builds] at built
  rcases scalarClause_eq_ok built with ⟨_, -, -, rfl⟩ | ⟨-, -, -, rfl⟩ <;> rfl

theorem blamesClauses_of_scalarClause
    {strategy : Strategy}
    {kind : String}
    {admitted : Operator → Bool}
    (builds : strategy.build = scalarClause kind admitted) :
    strategy.BlamesClauses := by
  intro target operator value failure refused
  rw [builds] at refused
  exact .inl ⟨operator, kind, scalarClause_eq_error refused⟩

theorem keepsTarget_of_uncheckedClause
    {strategy : Strategy}
    (builds : strategy.build = uncheckedClause) :
    strategy.KeepsTarget := by
  intro target operator value clause built
  rw [builds] at built
  cases built
  rfl

theorem blamesClauses_of_uncheckedClause
    {strategy : Strategy}
    (builds : strategy.build = uncheckedClause) :
    strategy.BlamesClauses := by
  intro target operator value failure refused
  rw [builds] at refused
  cases refused

theorem keepsTarget_text (caseSensitive : Bool) :
    (text caseSensitive).KeepsTarget := by
  intro target operator value clause built
  rcases textClause_eq_ok built with ⟨-, patternBuilt⟩ | ⟨-, plain, plainBuilt, rfl⟩
  · obtain ⟨_, -, -, rfl⟩ := patternClause_eq_ok patternBuilt
    rfl
  · rcases scalarClause_eq_ok plainBuilt with ⟨_, -, -, rfl⟩ | ⟨-, -, -, rfl⟩ <;> rfl

theorem blamesClauses_text (caseSensitive : Bool) :
    (text caseSensitive).BlamesClauses := by
  intro target operator value failure refused
  change textClause caseSensitive target operator value = _ at refused
  unfold textClause at refused
  split at refused
  · rcases patternClause_eq_error refused with ofOperator | ofPattern
    · exact .inl ⟨.regex, _, ofOperator⟩
    · exact .inr ⟨_, ofPattern⟩
  · rw [map_eq_error] at refused
    exact .inl ⟨operator, _, scalarClause_eq_error refused⟩

/-- All strategies of the standard table keep their targets. -/
theorem keepsTarget_standard
    (kind : ValueKind)
    (caseSensitive : Bool) :
    (StrategyTable.standard.scalar kind caseSensitive).KeepsTarget := by
  cases kind with
  | text =>
      cases caseSensitive
      · exact keepsTarget_text false
      · exact keepsTarget_text true
  | integer | decimal | boolean | temporal | enumeration =>
      exact keepsTarget_of_scalarClause rfl

/-- All strategies of the standard table blame the clauses that they refuse. -/
theorem blamesClauses_standard
    (kind : ValueKind)
    (caseSensitive : Bool) :
    (StrategyTable.standard.scalar kind caseSensitive).BlamesClauses := by
  cases kind with
  | text =>
      cases caseSensitive
      · exact blamesClauses_text false
      · exact blamesClauses_text true
  | integer | decimal | boolean | temporal | enumeration =>
      exact blamesClauses_of_scalarClause rfl

end Strategy

/-- A registered strategy is the one of its kind, and those of other kinds stay. -/
theorem StrategyTable.scalar_register
    (table : StrategyTable)
    (kind other : ValueKind)
    (strategy : Strategy)
    (caseSensitive : Bool) :
    (table.register kind strategy).scalar other caseSensitive =
      if other = kind then strategy else table.scalar other caseSensitive := by
  cases kind <;> cases other <;> simp [register, scalar]

/-- What holds of a table's strategies and of a new one holds after its registration. -/
theorem StrategyTable.forall_scalar_register
    {property : Strategy → Prop}
    {table : StrategyTable}
    (holds : ∀ kind caseSensitive, property (table.scalar kind caseSensitive))
    {strategy : Strategy}
    (holdsOfNew : property strategy)
    (kind other : ValueKind)
    (caseSensitive : Bool) :
    property ((table.register kind strategy).scalar other caseSensitive) := by
  rw [scalar_register]
  split
  · exact holdsOfNew
  · exact holds other caseSensitive

end FieldSearch
