import FieldSearch.Proofs.Outcomes
import FieldSearch.Strategy.Table

namespace FieldSearch

open Outcomes

/-!
# Values of a type

A scalar is a value of a type if it is of the type's kind and, where the type is
an enumeration, one of its variants. What the standard strategies read is a
value of the declared type, or a flat list of such values.
-/

/-- The kind of values that a scalar belongs to. -/
def Scalar.kind : Scalar → ValueKind
  | .text _ => .text
  | .integer _ => .integer
  | .decimal _ => .decimal
  | .boolean _ => .boolean
  | .temporal _ => .temporal
  | .variant _ => .enumeration

/-- A scalar is a value of a type. -/
structure Scalar.IsOf (type : ValueType) (leaf : Scalar) : Prop where
  kind_eq : leaf.kind = type.kind
  /-- A variant is one of those declared. -/
  mem_variants : ∀ name, leaf = .variant name → name ∈ type.variants

/-- An operand is a value of a type. -/
def Operand.IsLeafOf (type : ValueType) (operand : Operand) : Prop :=
  ∃ leaf, operand = .scalar leaf ∧ leaf.IsOf type

/-- An operand is a value of a type, or a flat list of such values. -/
def Operand.IsOf (type : ValueType) (operand : Operand) : Prop :=
  ∀ item ∈ operand.items, item.IsLeafOf type

@[simp] theorem Operand.isList_intoList (operand : Operand) :
    operand.intoList.isList = true := by
  cases operand <;> rfl

@[simp] theorem Operand.items_intoList (operand : Operand) :
    operand.intoList.items = operand.items := by
  cases operand <;> rfl

@[simp] theorem Operand.intoList_intoList (operand : Operand) :
    operand.intoList.intoList = operand.intoList := by
  cases operand <;> rfl

theorem Operand.exists_items_of_isList
    {operand : Operand}
    (isList : operand.isList = true) :
    ∃ items, operand = .list items := by
  cases operand with
  | scalar value =>
      cases isList
  | list items =>
      exact ⟨items, rfl⟩

namespace Operand.IsOf

theorem intoList
    {type : ValueType}
    {operand : Operand}
    (typed : operand.IsOf type) :
    operand.intoList.IsOf type := by
  unfold IsOf
  rw [items_intoList]
  exact typed

theorem isLeafOf
    {type : ValueType}
    {operand : Operand}
    (typed : operand.IsOf type)
    (single : operand.isList = false) :
    operand.IsLeafOf type := by
  cases operand with
  | scalar value =>
      exact typed (.scalar value) (by simp [items])
  | list items =>
      cases single

end Operand.IsOf

theorem Operand.IsLeafOf.isOf
    {type : ValueType}
    {operand : Operand}
    (leafTyped : operand.IsLeafOf type) :
    operand.IsOf type := by
  obtain ⟨leaf, rfl, typed⟩ := leafTyped
  intro item member
  obtain rfl : item = .scalar leaf := by
    simpa [Operand.items] using member
  exact ⟨leaf, rfl, typed⟩

namespace Strategy

/-- What is read from tokens one by one has the property that each reading has. -/
theorem readEach_forall
    {property : Operand → Prop}
    {read : String → Except ConversionError Operand}
    (reads : ∀ token operand, read token = .ok operand → property operand)
    {tokens : List String}
    {operands : List Operand}
    (readAll : readEach read tokens = .ok operands) :
    ∀ operand ∈ operands, property operand := by
  induction tokens generalizing operands with
  | nil =>
      cases readAll
      simp
  | cons token rest inductionHypothesis =>
      rw [readEach] at readAll
      obtain ⟨first, firstRead, later⟩ := bind_eq_ok.mp readAll
      obtain ⟨others, othersRead, listed⟩ := bind_eq_ok.mp later
      cases listed
      rw [List.forall_mem_cons]
      exact ⟨reads token first firstRead, inductionHypothesis othersRead⟩

/-- A token that is read as a single value is the only item of its list. -/
theorem readEach_singleton
    {read : String → Except ConversionError Operand}
    {token : String}
    (single : ∀ operand, read token = .ok operand → operand.isList = false) :
    (readEach read [token]).map .list = (read token).map Operand.intoList := by
  rw [readEach]
  cases isRead : read token with
  | error cause =>
      rfl
  | ok operand =>
      cases operand with
      | scalar value =>
          rfl
      | list items =>
          cases single _ isRead

/-- The standard strategy for a type's kind reads tokens as values of the type. -/
theorem isLeafOf_of_standard_read
    {type : ValueType}
    {caseSensitive : Bool}
    {token : String}
    {operand : Operand}
    (read :
      (StrategyTable.standard.scalar type.kind caseSensitive).read type token = .ok operand) :
    operand.IsLeafOf type := by
  cases kindIs : type.kind with
  | text =>
      rw [kindIs] at read
      refine ⟨.text token, ?_, kindIs.symm, by simp⟩
      cases caseSensitive <;> cases read <;> rfl
  | integer | decimal | boolean | temporal =>
      rw [kindIs] at read
      simp only [StrategyTable.standard, StrategyTable.scalar, integer, decimal, boolean,
        temporal, elementwise] at read
      split at read
      · cases read
        exact ⟨_, rfl, kindIs.symm, by simp⟩
      · cases read
  | enumeration =>
      rw [kindIs] at read
      simp only [StrategyTable.standard, StrategyTable.scalar, enumeration,
        elementwise] at read
      split at read
      · next declared =>
          cases read
          refine ⟨.variant token, rfl, kindIs.symm, ?_⟩
          rintro name same
          cases same
          simpa using declared
      · cases read

/-- The standard strategies read lists token by token. -/
theorem standard_readAll
    (kind : ValueKind)
    (caseSensitive : Bool)
    (type : ValueType)
    (tokens : List String) :
    (StrategyTable.standard.scalar kind caseSensitive).readAll type tokens =
      (readEach ((StrategyTable.standard.scalar kind caseSensitive).read type) tokens).map
        .list := by
  cases kind <;> cases caseSensitive <;> rfl

/-- The standard strategies read raw values as values of the declared type. -/
theorem isOf_of_standard_readRaw
    {type : ValueType}
    {caseSensitive : Bool}
    {raw : RawValue}
    {operand : Operand}
    (read :
      (StrategyTable.standard.scalar type.kind caseSensitive).readRaw type raw =
        .ok operand) :
    operand.IsOf type := by
  cases raw with
  | single token =>
      exact (isLeafOf_of_standard_read read).isOf
  | list tokens =>
      rw [readRaw, standard_readAll, map_eq_ok] at read
      obtain ⟨items, itemsRead, rfl⟩ := read
      exact readEach_forall (fun _ _ => isLeafOf_of_standard_read) itemsRead

/-- The standard strategies read lists, and nothing else, as lists. -/
theorem isList_of_standard_readRaw
    {type : ValueType}
    {caseSensitive : Bool}
    {raw : RawValue}
    {operand : Operand}
    (read :
      (StrategyTable.standard.scalar type.kind caseSensitive).readRaw type raw =
        .ok operand) :
    operand.isList = raw.isList := by
  cases raw with
  | single token =>
      obtain ⟨leaf, rfl, -⟩ := isLeafOf_of_standard_read read
      rfl
  | list tokens =>
      rw [readRaw, standard_readAll, map_eq_ok] at read
      obtain ⟨items, -, rfl⟩ := read
      rfl

/-- A list of one token is read as the token is, and then made a list. -/
theorem standard_readRaw_singleton
    (type : ValueType)
    (caseSensitive : Bool)
    (shape : FieldShape)
    (token : String) :
    (StrategyTable.fit (StrategyTable.standard.scalar type.kind caseSensitive) shape).readRaw
        type (.list [token]) =
      ((StrategyTable.fit (StrategyTable.standard.scalar type.kind caseSensitive) shape).readRaw
        type (.single token)).map Operand.intoList := by
  have single :
      (StrategyTable.standard.scalar type.kind caseSensitive).readAll type [token] =
        ((StrategyTable.standard.scalar type.kind caseSensitive).read type token).map
          Operand.intoList := by
    rw [standard_readAll]
    refine readEach_singleton fun operand read => ?_
    obtain ⟨leaf, rfl, -⟩ := isLeafOf_of_standard_read read
    rfl
  cases shape with
  | scalar =>
      exact single
  | collection =>
      simp only [StrategyTable.fit, readRaw, collection, single]
      cases (StrategyTable.standard.scalar type.kind caseSensitive).read type token <;>
        simp [Except.map]

/-- Fitting a strategy to a shape changes at most whether a single value is a list. -/
theorem readRaw_fit
    {strategy : Strategy}
    {shape : FieldShape}
    {type : ValueType}
    {raw : RawValue}
    {operand : Operand}
    (read : (StrategyTable.fit strategy shape).readRaw type raw = .ok operand) :
    ∃ plain,
      strategy.readRaw type raw = .ok plain ∧
        (operand = plain ∨ operand = plain.intoList) := by
  cases shape with
  | scalar =>
      exact ⟨operand, read, .inl rfl⟩
  | collection =>
      cases raw with
      | single token =>
          obtain ⟨plain, plainRead, rfl⟩ := map_eq_ok.mp read
          exact ⟨plain, plainRead, .inr rfl⟩
      | list tokens =>
          exact ⟨operand, read, .inl rfl⟩

end Strategy

end FieldSearch
