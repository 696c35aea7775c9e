import FieldSearch.Proofs.Compiler.Resolution
import FieldSearch.Proofs.Sql.Noninterference
import FieldSearch.Proofs.Sql.Reading

namespace FieldSearch

open Outcomes Sql

/-!
# Searches where there is no value

A value that is missing satisfies no clause, and a column that is null satisfies
no comparison, no search in texts and no membership test. One condition does not
look at its column at all: to exclude the members of an empty set is to exclude
nothing, so it is written as `1 = 1`, which is true of every row.
-/

/-- The criterion excludes the members of an empty list. -/
def Criterion.ExcludesNothing (criterion : Criterion) : Prop :=
  (criterion.operator = .ne ∨ criterion.operator = .notIn) ∧ criterion.value = .list []

namespace Operator

theorem asMembership?_normalize (operator : Operator) :
    operator.normalize.asMembership? = operator.asMembership? := by
  cases operator <;> rfl

theorem asMembership?_eq_notIn_iff (operator : Operator) :
    operator.asMembership? = some .notIn ↔ operator = .ne ∨ operator = .notIn := by
  cases operator <;> decide

end Operator

/-! Conditions on a column that is null. -/

namespace Sql

theorem Store.read_null
    {store : Store}
    {column : Column}
    (null : store.column column.parts = none) :
    store.read column = none := by
  rw [read, null]
  rfl

theorem isNegated_eq_ok_iff
    {operator : Operator}
    {kind : String}
    {negated : Bool} :
    isNegated operator kind = .ok negated ↔
      ∃ membership, operator.asMembership? = some membership ∧
        negated = (membership == .notIn) := by
  unfold isNegated
  cases operator.asMembership? with
  | none =>
      simp
  | some membership =>
      simp [eq_comm]

namespace Condition

variable
  {store : Store}
  {column : Column}
  (null : store.column column.parts = none)

include null

theorem evaluate_compare_null
    (comparison : Comparison)
    (parameter : Operand) :
    (compare column comparison parameter).evaluate store = .unknown := by
  rw [evaluate, Store.read_null null]
  rfl

theorem evaluate_like_null (pattern : String) :
    (like column pattern).evaluate store = .unknown := by
  rw [evaluate, Store.read_null null]
  rfl

theorem evaluate_member_null
    (negated : Bool)
    {members : List Operand}
    (nonempty : members ≠ []) :
    (member column negated members).evaluate store = .unknown := by
  have someData : members.map (·.datum?) ≠ [] := by simpa using nonempty
  rw [evaluate, Store.read_null null, among_null someData]
  cases negated <;> rfl

end Condition

end Sql

namespace Clause

/-- A comparison or a search in texts is unknown of null. -/
theorem evaluate_scalarCondition_null
    {clause : Clause}
    {condition : Condition}
    (lowered : clause.scalarCondition = .ok condition)
    {store : Store}
    (null : store.column clause.path.parts = none) :
    condition.evaluate store = .unknown := by
  have columnNull : store.column clause.column.parts = none := null
  simp only [scalarCondition] at lowered
  split at lowered
  · cases lowered
    exact Condition.evaluate_compare_null columnNull _ _
  · cases lowered
    exact Condition.evaluate_like_null columnNull _
  · cases lowered

/-- Of membership tests the one that excludes nothing holds of null. -/
theorem evaluate_membershipCondition_null
    (clause : Clause)
    {store : Store}
    (null : store.column clause.path.parts = none)
    (negated : Bool)
    (members : List Operand) :
    (clause.membershipCondition .member negated members).evaluate store = .holds ↔
      negated = true ∧ members = [] := by
  have columnNull : store.column clause.column.parts = none := null
  unfold membershipCondition
  by_cases empty : members = []
  · rw [if_pos (List.isEmpty_iff.mpr empty), Condition.evaluate, Truth.ofBool_eq_holds_iff]
    simp [empty]
  · rw [if_neg (by simpa using empty),
      Condition.evaluate_member_null columnNull negated (by simpa using empty)]
    simp [empty]

/-- The condition of a clause on single values holds of null just if it excludes nothing. -/
theorem evaluate_null_iff
    {clause : Clause}
    (shape : clause.shape = .scalar)
    {condition : Condition}
    (lowered : clause.toSql = .ok condition)
    {store : Store}
    (null : store.column clause.path.parts = none) :
    condition.evaluate store = .holds ↔
      clause.operator.asMembership? = some .notIn ∧ clause.value.items = [] := by
  cases isList : clause.value.isList with
  | true =>
      rw [toSql_of_isList shape isList, map_eq_ok] at lowered
      obtain ⟨negated, isNegated, rfl⟩ := lowered
      rw [isNegated_eq_ok_iff, Operator.asMembership?_normalize] at isNegated
      obtain ⟨membership, form, rfl⟩ := isNegated
      rw [clause.evaluate_membershipCondition_null null, form]
      simp
  | false =>
      rw [toSql_of_single shape isList] at lowered
      have unknown := evaluate_scalarCondition_null lowered null
      -- A single value is its only item.
      have someItems : clause.value.items ≠ [] := by
        cases value : clause.value with
        | scalar given =>
            simp [Operand.items]
        | list members =>
            rw [value] at isList
            cases isList
      simp [unknown, someItems]

/-- To exclude the members of an empty set is written as a constant. -/
theorem toFragment_of_items_eq_nil
    {clause : Clause}
    (shape : clause.shape = .scalar)
    (negated : clause.operator.asMembership? = some .notIn)
    (noItems : clause.value.items = []) :
    clause.toFragment = .ok { text := "1 = 1", parameters := [] } := by
  have isList : clause.value.isList = true := by
    cases value : clause.value with
    | scalar given =>
        rw [value] at noItems
        cases noItems
    | list members =>
        rfl
  have isNegated : isNegated clause.operator.normalize "SQL membership" = .ok true := by
    rw [isNegated_eq_ok_iff, Operator.asMembership?_normalize]
    exact ⟨.notIn, negated, rfl⟩
  rw [toFragment, toSql_of_isList shape isList, isNegated, noItems]
  rfl

end Clause

/-! What clauses keep of a criterion. -/

namespace Strategy

/-- A value is read as a list without items just if it is the empty list. -/
theorem items_eq_nil_of_standard_readRaw
    {type : ValueType}
    {caseSensitive : Bool}
    {raw : RawValue}
    {operand : Operand}
    (read :
      (StrategyTable.standard.scalar type.kind caseSensitive).readRaw type raw = .ok operand) :
    operand.items = [] ↔ raw = .list [] := by
  cases raw with
  | single token =>
      obtain ⟨leaf, rfl, -⟩ := isLeafOf_of_standard_read read
      simp [Operand.items]
  | list tokens =>
      rw [readRaw, standard_readAll, map_eq_ok] at read
      obtain ⟨items, itemsRead, rfl⟩ := read
      have sameLength := length_of_readEach itemsRead
      rw [Operand.items, RawValue.list.injEq, ← List.length_eq_zero_iff, sameLength,
        List.length_eq_zero_iff]

/-- What a clause keeps of the operator and the value that it was built of. -/
structure Keeps (operator : Operator) (value : Operand) (clause : Clause) : Prop where
  shape_eq : clause.shape = .scalar
  asMembership?_eq : clause.operator.asMembership? = operator.asMembership?
  items_eq : clause.value.items = value.items

theorem keeps_of_scalarClause
    {kind : String}
    {admitted : Operator → Bool}
    {target : FieldPath}
    {operator : Operator}
    {value : Operand}
    {clause : Clause}
    (built : scalarClause kind admitted target operator value = .ok clause) :
    Keeps operator value clause := by
  rcases scalarClause_eq_ok built with ⟨membership, form, -, rfl⟩ | ⟨-, -, -, rfl⟩
  · have setTest := Operator.isSetTest_of_asMembership? form
    exact ⟨rfl, setTest.asMembership?_eq.trans form.symm, value.items_intoList⟩
  · exact ⟨rfl, rfl, rfl⟩

theorem keeps_of_standard_build
    {kind : ValueKind}
    {caseSensitive : Bool}
    {target : FieldPath}
    {operator : Operator}
    {value : Operand}
    {clause : Clause}
    (built :
      (StrategyTable.standard.scalar kind caseSensitive).build target operator value =
        .ok clause) :
    Keeps operator value clause := by
  rcases standard_build_eq_ok built with
    ⟨-, rfl, patternBuilt⟩ | ⟨admitted, plain, counts, -, -, plainBuilt, rfl, -⟩
  · obtain ⟨pattern, -, -, rfl⟩ := patternClause_eq_ok patternBuilt
    exact ⟨rfl, rfl, rfl⟩
  · have keeps := keeps_of_scalarClause plainBuilt
    exact ⟨keeps.shape_eq, keeps.asMembership?_eq, keeps.items_eq⟩

end Strategy

namespace Compiler

/--
Where there is no value, nothing is found. The clause of a criterion on a field
with single values rejects a missing value, and the text that it is written as, with
its parameters, does not hold of a row whose column is null. The one exception is a
criterion that excludes the members of an empty list: it is written as `1 = 1`,
without parameters, which holds of every row.
-/
theorem compile_rejects_missing
    (schema : EntitySchema)
    (settings : CaseSettings)
    (criterion : Criterion)
    (accepted : Key.wellFormed criterion.key = true)
    (passed : List Attribute)
    (context : FieldType)
    (found : Attribute)
    (leads : LeadsTo (.entity schema) criterion.key passed context found)
    (scalarShape : context.fieldShape found.name = .scalar)
    (clause : Clause)
    (compiled :
      (Compiler.ofSchema schema).compile { settings := settings } criterion = .ok clause) :
    clause.accepts .missing = false ∧
      (∀ fragment,
        clause.toFragment = .ok fragment →
          ∀ store : Store,
            store.Holds (pathTo passed found).parts .missing →
              ∃ truth,
                fragment.evaluate? store = some truth ∧
                  (truth = .holds ↔ criterion.ExcludesNothing)) ∧
        (criterion.ExcludesNothing →
          ∃ fragment,
            clause.toFragment = .ok fragment ∧
              fragment.text = "1 = 1" ∧
                fragment.parameters = [] ∧
                  ∀ store : Store, fragment.evaluate? store = some .holds) := by
  have compiledFound := compiled
  rw [(Compiler.ofSchema schema).compile_of_leadsTo _ accepted leads] at compiledFound
  have path : clause.path = pathTo passed found :=
    path_of_compileFound (keepsTargets_standard _ rfl) compiledFound
  obtain ⟨type, operand, -, read, built⟩ := compileFound_eq_ok compiledFound
  rw [scalarShape] at read built
  have keeps := Strategy.keeps_of_standard_build built
  have excludesNothing_iff :
      clause.operator.asMembership? = some .notIn ∧ clause.value.items = [] ↔
        criterion.ExcludesNothing := by
    rw [keeps.asMembership?_eq, keeps.items_eq, Strategy.items_eq_nil_of_standard_readRaw read,
      Operator.asMembership?_eq_notIn_iff, Criterion.ExcludesNothing]
  refine ⟨rfl, ?_, ?_⟩
  · intro fragment written store null
    rw [← path] at null
    obtain ⟨condition, lowered, rfl⟩ := Clause.toFragment_eq_ok.mp written
    refine ⟨condition.evaluate store, Clause.evaluate?_of_toSql lowered store, ?_⟩
    rw [Clause.evaluate_null_iff keeps.shape_eq lowered null, excludesNothing_iff]
  · intro excludesNothing
    obtain ⟨negated, noItems⟩ := excludesNothing_iff.mpr excludesNothing
    have written := Clause.toFragment_of_items_eq_nil keeps.shape_eq negated noItems
    exact ⟨_, written, rfl, rfl, fun store => rfl⟩

/-- A null population is not found by excluding a number. -/
theorem compile_rejects_missing_population :
    ∃ clause fragment,
      (Compiler.ofSchema Record.Country.schema).compile { settings := {} }
          ⟨"population", .ne, .list ["7"]⟩ = .ok clause ∧
        clause.toFragment = .ok fragment ∧
          clause.accepts .missing = false ∧
            ∀ store : Store,
              store.column ["population"] = none →
                fragment.evaluate? store ≠ some .holds := by
  let country : FieldType := .entity Record.Country.schema
  let population : Attribute := ⟨"population", Record.typeOf .integer, none⟩
  have leads : LeadsTo country "population" [] country population :=
    leadsTo_of_dot_not_mem (by decide) rfl
  obtain ⟨rejects, fragments, -⟩ :=
    compile_rejects_missing Record.Country.schema {} ⟨"population", .ne, .list ["7"]⟩
      (by decide) [] country population leads rfl _ rfl
  refine ⟨_, _, rfl, rfl, rejects, ?_⟩
  intro store null holds
  obtain ⟨truth, evaluated, excludesNothing⟩ := fragments _ rfl store null
  rw [evaluated, Option.some.injEq] at holds
  cases (excludesNothing.mp holds).2

/-- A null population is found by excluding no number at all, although it is no value. -/
theorem compile_empty_exclusion_holds_of_null :
    ∃ clause fragment,
      Key.wellFormed "population" = true ∧
        (FieldType.entity Record.Country.schema).fieldShape "population" = .scalar ∧
          (Compiler.ofSchema Record.Country.schema).compile { settings := {} }
              ⟨"population", .notIn, .list []⟩ = .ok clause ∧
            clause.accepts .missing = false ∧
              clause.toFragment = .ok fragment ∧
                ∃ store : Store,
                  store.Holds clause.path.parts .missing ∧
                    fragment.evaluate? store = some .holds := by
  refine ⟨_, _, by decide, rfl, rfl, rfl, rfl, ?_⟩
  exact ⟨{ column := fun _ => none, relation := fun _ => [] }, rfl, rfl⟩

end Compiler

end FieldSearch
