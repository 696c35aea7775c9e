import FieldSearch.Proofs.Outcomes
import FieldSearch.Sql.Lowering

namespace FieldSearch.Clause

open Outcomes Sql

/-!
# Equations of lowering

A clause has one of three sorts of conditions: a test for elements if its field is
a collection, a test for membership if its value is a list, and otherwise a
comparison or a search in texts.
-/

theorem toSql_of_collection
    {clause : Clause}
    (shape : clause.shape = .collection) :
    clause.toSql =
      (isNegated clause.operator.normalize "Collection").map fun negated =>
        clause.membershipCondition .element negated clause.value.items := by
  unfold toSql
  rw [shape]
  cases value : clause.value <;> rfl

theorem toSql_of_isList
    {clause : Clause}
    (shape : clause.shape = .scalar)
    (isList : clause.value.isList = true) :
    clause.toSql =
      (isNegated clause.operator.normalize "SQL membership").map fun negated =>
        clause.membershipCondition .member negated clause.value.items := by
  unfold toSql
  rw [shape]
  cases value : clause.value with
  | scalar given =>
      rw [value] at isList
      cases isList
  | list members =>
      rfl

theorem toSql_of_single
    {clause : Clause}
    (shape : clause.shape = .scalar)
    (single : clause.value.isList = false) :
    clause.toSql = clause.scalarCondition := by
  unfold toSql
  rw [shape]
  cases value : clause.value with
  | scalar given =>
      rfl
  | list members =>
      rw [value] at single
      cases single

/-- Every condition of a clause is of one of the three sorts. -/
theorem toSql_eq_ok
    {clause : Clause}
    {condition : Condition}
    (lowered : clause.toSql = .ok condition) :
    (∃ negated,
      condition = clause.membershipCondition .element negated clause.value.items ∨
        condition = clause.membershipCondition .member negated clause.value.items) ∨
      (clause.value.isList = false ∧ clause.scalarCondition = .ok condition) := by
  cases shape : clause.shape with
  | collection =>
      rw [toSql_of_collection shape, map_eq_ok] at lowered
      obtain ⟨negated, -, rfl⟩ := lowered
      exact .inl ⟨negated, .inl rfl⟩
  | scalar =>
      cases isList : clause.value.isList with
      | true =>
          rw [toSql_of_isList shape isList, map_eq_ok] at lowered
          obtain ⟨negated, -, rfl⟩ := lowered
          exact .inl ⟨negated, .inr rfl⟩
      | false =>
          rw [toSql_of_single shape isList] at lowered
          exact .inr ⟨rfl, lowered⟩

end FieldSearch.Clause
