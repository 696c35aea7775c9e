import FieldSearch.Proofs.Strategy.Building
import FieldSearch.Proofs.Value.Typing

namespace FieldSearch

open Outcomes

/-!
# Refusals of strategies

A strategy can refuse a token when it reads and a clause when it builds. Lists
that are read token by token are refused for the first token that would be
refused alone, and wrapping a strategy for collections does not change that. A
clause is refused for its operator or for its pattern, never for the field.
-/

/-- The tokens of a raw value, in order. -/
def RawValue.tokens : RawValue → List String
  | single token => [token]
  | list tokens => tokens

theorem SearchError.IsRefusal.status_eq
    {failure : SearchError}
    (refusal : failure.IsRefusal) :
    failure.status = .badRequest := by
  rcases refusal with ⟨operator, kind, rfl⟩ | ⟨pattern, rfl⟩ <;> rfl

namespace Strategy

/-- The first of the tokens that cannot be read is refused for a cause. -/
def FirstRefused
    (read : String → Except ConversionError Operand)
    (tokens : List String)
    (cause : ConversionError) :
    Prop :=
  ∃ earlier token later,
    tokens = earlier ++ token :: later ∧
      (∀ other ∈ earlier, ∃ operand, read other = .ok operand) ∧
        read token = .error cause

section FirstRefused

variable
  {read : String → Except ConversionError Operand}
  {token : String}
  {tokens : List String}
  {cause : ConversionError}

theorem not_firstRefused_nil : ¬ FirstRefused read [] cause :=
  not_failsFirst_nil

/-- A token that can be read is passed over. -/
theorem firstRefused_cons_of_ok
    {operand : Operand}
    (readToken : read token = .ok operand) :
    FirstRefused read (token :: tokens) cause ↔ FirstRefused read tokens cause :=
  failsFirst_cons_of_ok readToken

/-- A token that cannot be read is the first one itself. -/
theorem firstRefused_cons_of_error
    {own : ConversionError}
    (refusedToken : read token = .error own) :
    FirstRefused read (token :: tokens) cause ↔ own = cause :=
  failsFirst_cons_of_error refusedToken

theorem firstRefused_singleton :
    FirstRefused read [token] cause ↔ read token = .error cause := by
  cases readToken : read token with
  | error own =>
      rw [firstRefused_cons_of_error readToken, Except.error.injEq]
  | ok operand =>
      rw [firstRefused_cons_of_ok readToken]
      simp [not_firstRefused_nil]

/-- Reading token by token fails just for the first token that cannot be read. -/
theorem readEach_eq_error_iff :
    readEach read tokens = .error cause ↔ FirstRefused read tokens cause := by
  induction tokens with
  | nil =>
      simp [readEach, not_firstRefused_nil]
  | cons token rest inductionHypothesis =>
      rw [readEach]
      cases readToken : read token with
      | error own =>
          rw [firstRefused_cons_of_error readToken]
          simp [bind, Except.bind]
      | ok operand =>
          rw [firstRefused_cons_of_ok readToken, ← inductionHypothesis]
          cases readEach read rest <;> simp [bind, Except.bind, pure, Except.pure]

/-- Some token is the first to be refused just if any is refused. -/
theorem exists_firstRefused_iff :
    (∃ cause, FirstRefused read tokens cause) ↔
      ∃ token ∈ tokens, ∃ cause, read token = .error cause := by
  constructor
  · rintro ⟨cause, earlier, token, later, rfl, -, failed⟩
    exact ⟨token, by simp, cause, failed⟩
  · rintro ⟨token, member, cause, failed⟩
    -- The token given need not be the first one refused, so its cause is not kept.
    induction tokens with
    | nil =>
        cases member
    | cons first rest inductionHypothesis =>
        cases readFirst : read first with
        | error own =>
            exact ⟨own, (firstRefused_cons_of_error readFirst).mpr rfl⟩
        | ok operand =>
            rcases List.mem_cons.mp member with rfl | inRest
            · rw [readFirst] at failed
              cases failed
            · obtain ⟨other, refused⟩ := inductionHypothesis inRest
              exact ⟨other, (firstRefused_cons_of_ok readFirst).mpr refused⟩

/-- What becomes of the tokens that are read makes no difference to the refusals. -/
theorem firstRefused_map (change : Operand → Operand) :
    FirstRefused (fun token => (read token).map change) tokens cause ↔
      FirstRefused read tokens cause := by
  have readable :
      ∀ other,
        (∃ operand, (read other).map change = .ok operand) ↔
          ∃ operand, read other = .ok operand := by
    intro other
    cases read other <;> simp [Except.map]
  simp only [FirstRefused, readable, map_eq_error]

end FirstRefused

/-- A strategy reads lists token by token, or it wraps such a strategy for collections. -/
inductive ReadsTokenByToken : Strategy → Prop where
  | each
      {strategy : Strategy} :
      (∀ type tokens,
        strategy.readAll type tokens =
          (readEach (strategy.read type) tokens).map .list) →
      ReadsTokenByToken strategy
  | collection
      {element : Strategy} :
      ReadsTokenByToken element →
      ReadsTokenByToken element.collection

/-- Lists are refused for the first token that is refused alone. -/
theorem ReadsTokenByToken.readAll_eq_error_iff
    {strategy : Strategy}
    (tokenwise : strategy.ReadsTokenByToken)
    {type : ValueType}
    {tokens : List String}
    {cause : ConversionError} :
    strategy.readAll type tokens = .error cause ↔
      FirstRefused (strategy.read type) tokens cause := by
  induction tokenwise with
  | each readsEach =>
      rw [readsEach, map_eq_error, readEach_eq_error_iff]
  | collection _ inductionHypothesis =>
      exact inductionHypothesis.trans (firstRefused_map Operand.intoList).symm

/-- Raw values of either form are refused for their first token that is refused alone. -/
theorem ReadsTokenByToken.readRaw_eq_error_iff
    {strategy : Strategy}
    (tokenwise : strategy.ReadsTokenByToken)
    {type : ValueType}
    {value : RawValue}
    {cause : ConversionError} :
    strategy.readRaw type value = .error cause ↔
      FirstRefused (strategy.read type) value.tokens cause := by
  cases value with
  | single token =>
      exact firstRefused_singleton.symm
  | list tokens =>
      exact tokenwise.readAll_eq_error_iff

/--
What strategies are documented to do, those from elsewhere included: lists are
read token by token, and a clause is refused for its operator or its pattern.
-/
structure Conforms (strategy : Strategy) : Prop where
  readsTokenByToken : strategy.ReadsTokenByToken
  blamesClauses : strategy.BlamesClauses

theorem Conforms.fit
    {strategy : Strategy}
    (conforms : strategy.Conforms)
    (shape : FieldShape) :
    (StrategyTable.fit strategy shape).Conforms := by
  cases shape with
  | scalar =>
      exact conforms
  | collection =>
      exact ⟨.collection conforms.readsTokenByToken, conforms.blamesClauses.collection⟩

/-- The strategies of the standard table do what is documented. -/
theorem conforms_standard
    (kind : ValueKind)
    (caseSensitive : Bool) :
    (StrategyTable.standard.scalar kind caseSensitive).Conforms where
  readsTokenByToken := .each (standard_readAll kind caseSensitive)
  blamesClauses := blamesClauses_standard kind caseSensitive

/-- Strategies that build any clause do so as well. -/
theorem conforms_of_uncheckedClause
    (name : String)
    (read : ValueType → String → Except ConversionError Operand) :
    (elementwise name read uncheckedClause).Conforms where
  readsTokenByToken := .each fun _ _ => rfl
  blamesClauses := blamesClauses_of_uncheckedClause rfl

end Strategy

end FieldSearch
