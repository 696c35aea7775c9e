import FieldSearch.Proofs.Strategy.Building
import FieldSearch.Proofs.Value.Typing

namespace FieldSearch

open Outcomes

/-!
# Strategies wrapped for collections

A strategy that is wrapped for collections may be wrapped again, as when a custom
strategy for collections is chosen for a field that holds one. The second wrapper
changes nothing: values are lists already, and operators are set tests already. Below
all wrappers there is a strategy that reads single values, so a single token is read as
the list of that token is.
-/

namespace Strategy

/-- Wrapping a strategy for collections twice does what wrapping it once does. -/
theorem collection_collection (element : Strategy) :
    element.collection.collection = element.collection := by
  have sameRead :
      element.collection.collection.read = element.collection.read := by
    funext type token
    simp only [collection]
    cases element.read type token <;> simp [Except.map]
  have sameBuild :
      element.collection.collection.build = element.collection.build := by
    funext target operator value
    simp only [collection]
    cases form : operator.asMembership? with
    | none =>
        rfl
    | some membership =>
        have ownForm := (Operator.isSetTest_of_asMembership? form).asMembership?_eq
        simp only [ownForm, Operand.intoList_intoList]
        cases element.build target membership value.intoList <;> rfl
  exact (Strategy.mk.injEq ..).mpr ⟨rfl, sameRead, rfl, sameBuild⟩

/-- A wrapped strategy fits fields of either shape as it is. -/
theorem fit_collection
    (element : Strategy)
    (shape : FieldShape) :
    StrategyTable.fit element.collection shape = element.collection := by
  cases shape with
  | scalar =>
      rfl
  | collection =>
      exact element.collection_collection

/-- A strategy reads tokens as single values, and lists token by token. -/
structure ReadsSingleValues (strategy : Strategy) : Prop where
  readAll_eq :
    ∀ type tokens,
      strategy.readAll type tokens = (readEach (strategy.read type) tokens).map .list
  isList_eq_false :
    ∀ type token operand, strategy.read type token = .ok operand → operand.isList = false

/--
A strategy of the standard table or one from elsewhere that reads single values, wrapped
for collections any number of times.
-/
inductive WrapsSingleValues : Strategy → Prop where
  | standard
      (kind : ValueKind)
      (caseSensitive : Bool) :
      WrapsSingleValues (StrategyTable.standard.scalar kind caseSensitive)
  | supplied
      {name : String}
      {read : ValueType → String → Except ConversionError Operand}
      {build : FieldPath → Operator → Operand → Except SearchError Clause} :
      (∀ type token operand, read type token = .ok operand → operand.isList = false) →
      WrapsSingleValues (elementwise name read build)
  | collection
      {element : Strategy} :
      WrapsSingleValues element →
      WrapsSingleValues element.collection

/-- The standard strategies read single values, of whichever type they are asked for. -/
theorem readsSingleValues_standard
    (kind : ValueKind)
    (caseSensitive : Bool) :
    (StrategyTable.standard.scalar kind caseSensitive).ReadsSingleValues where
  readAll_eq := standard_readAll kind caseSensitive
  isList_eq_false := by
    intro type token operand read
    cases kind with
    | text =>
        cases caseSensitive <;> cases read <;> rfl
    | integer | decimal | boolean | temporal | enumeration =>
        simp only [StrategyTable.standard, StrategyTable.scalar, integer, decimal, boolean,
          temporal, enumeration, elementwise] at read
        split at read <;> cases read
        rfl

/-- Below all wrappers there is a strategy that reads single values; one of them counts. -/
theorem WrapsSingleValues.exists_base
    {strategy : Strategy}
    (wraps : strategy.WrapsSingleValues) :
    ∃ base : Strategy,
      base.ReadsSingleValues ∧ (strategy = base ∨ strategy = base.collection) := by
  induction wraps with
  | standard kind caseSensitive =>
      exact ⟨_, readsSingleValues_standard kind caseSensitive, .inl rfl⟩
  | supplied single =>
      exact ⟨_, ⟨fun _ _ => rfl, single⟩, .inl rfl⟩
  | collection _ inductionHypothesis =>
      obtain ⟨base, reads, isBase⟩ := inductionHypothesis
      refine ⟨base, reads, .inr ?_⟩
      rcases isBase with rfl | rfl
      · rfl
      · exact base.collection_collection

/-- A wrapped strategy for single values reads a token as it reads the list of that token. -/
theorem ReadsSingleValues.collection_read
    {base : Strategy}
    (reads : base.ReadsSingleValues)
    (type : ValueType)
    (token : String) :
    base.collection.read type token = base.collection.readAll type [token] := by
  calc
    base.collection.read type token =
        (base.read type token).map Operand.intoList := rfl
    _ = (readEach (base.read type) [token]).map .list :=
      (readEach_singleton (reads.isList_eq_false type token)).symm
    _ = base.collection.readAll type [token] :=
      (reads.readAll_eq type [token]).symm

/--
Wrapping for collections is idempotent and does not see the form of a value. However
often a strategy has been wrapped, two more wrappers read and build what one more does,
for fields of either shape, and a wrapped strategy reads a single token, or refuses it,
as it does the list of that token.
-/
theorem collection_absorbs_wrappers
    {strategy : Strategy}
    (wraps : strategy.WrapsSingleValues) :
    strategy.collection.collection = strategy.collection ∧
      (∀ shape, StrategyTable.fit strategy.collection shape = strategy.collection) ∧
        ∀ type token,
          strategy.collection.read type token = strategy.collection.readAll type [token] := by
  refine ⟨strategy.collection_collection, strategy.fit_collection, ?_⟩
  intro type token
  obtain ⟨base, reads, rfl | rfl⟩ := wraps.exists_base
  · exact reads.collection_read type token
  · rw [base.collection_collection]
    exact reads.collection_read type token

/-- Integers and trimmed texts, wrapped up to three times, where they are read and refused. -/
theorem collection_absorbs_wrappers_integer :
    Strategy.integer.collection.collection.collection =
        Strategy.integer.collection.collection ∧
      Strategy.integer.collection.collection.read (.ofKind .text) "x" =
          .error (.integer .invalidDigit) ∧
        Strategy.integer.collection.collection.readAll (.ofKind .text) ["x"] =
            .error (.integer .invalidDigit) ∧
          Strategy.trimmed.collection.readAll (.ofKind .text) [" a "] =
            .ok (.list [.ofText "a"]) := by
  obtain ⟨twice, -, sameReading⟩ :=
    collection_absorbs_wrappers (.collection (.standard .integer true))
  have trimmedSingle :
      ∀ (type : ValueType) (token : String) (operand : Operand),
        Except.ok (ε := ConversionError) (Operand.ofText (Text.trim token)) = .ok operand →
          operand.isList = false := by
    rintro type token operand ⟨⟩
    rfl
  obtain ⟨-, -, trimmedReading⟩ := collection_absorbs_wrappers (.supplied trimmedSingle)
  have refused :
      Strategy.integer.collection.collection.read (.ofKind .text) "x" =
        .error (.integer .invalidDigit) := by
    rfl
  refine ⟨twice, refused, (sameReading (.ofKind .text) "x").symm.trans refused, ?_⟩
  exact (trimmedReading (.ofKind .text) " a ").symm

end Strategy

end FieldSearch
