import FieldSearch.Proofs.Strategy.Building

namespace FieldSearch

open Outcomes

/-!
# Targets of strategies

A strategy builds a clause for a target from an operator and a value. What it
relies on is the operator and the value alone: on another target it builds the
same clause for that target, or refuses for the same reason, and no refusal is
about a field. All strategies of this library are of this sort, and fitting a
strategy to a shape keeps it so.
-/

/-- The same clause on another field. -/
def Clause.onto (path : FieldPath) (clause : Clause) : Clause :=
  { clause with path := path }

/-- What a strategy builds on one target it builds on any other. -/
structure Strategy.BuildsAnywhere (strategy : Strategy) : Prop where
  build_eq :
    ∀ target other operator value,
      strategy.build other operator value =
        (strategy.build target operator value).map (.onto other)
  /-- A refusal is about the operator or the value. -/
  field?_eq_none :
    ∀ target operator value failure,
      strategy.build target operator value = .error failure →
        failure.field? = none

namespace Strategy

theorem BuildsAnywhere.keepsTarget
    {strategy : Strategy}
    (anywhere : strategy.BuildsAnywhere) :
    strategy.KeepsTarget := by
  intro target operator value clause built
  have again := anywhere.build_eq target target operator value
  rw [built] at again
  have onTarget : clause = clause.onto target := Except.ok.inj again
  rw [onTarget]
  rfl

theorem BuildsAnywhere.fit
    {strategy : Strategy}
    (anywhere : strategy.BuildsAnywhere)
    (shape : FieldShape) :
    (StrategyTable.fit strategy shape).BuildsAnywhere := by
  cases shape with
  | scalar =>
      exact anywhere
  | collection =>
      constructor
      · intro target other operator value
        simp only [StrategyTable.fit, collection]
        cases operator.asMembership? with
        | none =>
            rfl
        | some membership =>
            dsimp only
            rw [anywhere.build_eq target other]
            cases strategy.build target membership value.intoList <;> rfl
      · intro target operator value failure refused
        simp only [StrategyTable.fit, collection] at refused
        split at refused
        · next membership _ =>
            rw [map_eq_error] at refused
            exact anywhere.field?_eq_none target membership value.intoList failure refused
        · cases refused
          rfl

theorem scalarClause_onto
    (kind : String)
    (admitted : Operator → Bool)
    (target other : FieldPath)
    (operator : Operator)
    (value : Operand) :
    scalarClause kind admitted other operator value =
      (scalarClause kind admitted target operator value).map (.onto other) := by
  unfold scalarClause
  repeat' split
  all_goals rfl

theorem buildsAnywhere_of_scalarClause
    {strategy : Strategy}
    {kind : String}
    {admitted : Operator → Bool}
    (builds : strategy.build = scalarClause kind admitted) :
    strategy.BuildsAnywhere := by
  constructor
  · intro target other operator value
    rw [builds]
    exact scalarClause_onto kind admitted target other operator value
  · intro target operator value failure refused
    rw [builds] at refused
    rw [scalarClause_eq_error refused]
    rfl

theorem buildsAnywhere_of_uncheckedClause
    {strategy : Strategy}
    (builds : strategy.build = uncheckedClause) :
    strategy.BuildsAnywhere := by
  constructor
  · intro target other operator value
    rw [builds]
    rfl
  · intro target operator value failure refused
    rw [builds] at refused
    cases refused

theorem patternClause_onto
    (caseSensitive : Bool)
    (target other : FieldPath)
    (value : Operand) :
    patternClause caseSensitive other value =
      (patternClause caseSensitive target value).map (.onto other) := by
  unfold patternClause
  split
  · rfl
  · dsimp only
    cases Pattern.compile? (value.asText?.getD "") (!caseSensitive) <;> rfl

theorem buildsAnywhere_text (caseSensitive : Bool) :
    (text caseSensitive).BuildsAnywhere := by
  constructor
  · intro target other operator value
    change textClause caseSensitive other operator value =
      (textClause caseSensitive target operator value).map (.onto other)
    unfold textClause
    split
    · exact patternClause_onto caseSensitive target other value
    · rw [scalarClause_onto ValueKind.text.name Operator.isText target other]
      cases scalarClause ValueKind.text.name Operator.isText target operator value <;> rfl
  · intro target operator value failure refused
    change textClause caseSensitive target operator value = _ at refused
    unfold textClause at refused
    split at refused
    · rcases patternClause_eq_error refused with rfl | rfl <;> rfl
    · rw [map_eq_error] at refused
      rw [scalarClause_eq_error refused]
      rfl

/-- All strategies of the standard table build anywhere. -/
theorem buildsAnywhere_standard
    (kind : ValueKind)
    (caseSensitive : Bool) :
    (StrategyTable.standard.scalar kind caseSensitive).BuildsAnywhere := by
  cases kind with
  | text =>
      cases caseSensitive
      · exact buildsAnywhere_text false
      · exact buildsAnywhere_text true
  | integer | decimal | boolean | temporal | enumeration =>
      exact buildsAnywhere_of_scalarClause rfl

end Strategy

end FieldSearch
