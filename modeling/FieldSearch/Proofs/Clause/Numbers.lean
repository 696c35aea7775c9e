import FieldSearch.Clause
import FieldSearch.Proofs.Decimal.Value

namespace FieldSearch

/-!
# Clauses over numbers

Integers and decimals are compared as the rational numbers they denote,
whichever of the two kinds either of them is.
-/

/-- The number that a numeric scalar denotes. -/
def Scalar.toRat? : Scalar → Option ℚ
  | integer number => some number.toInt
  | decimal number => some number.toRat
  | _ => none

/-- An operator holds of numeric scalars if it admits the order of their numbers. -/
theorem Clause.holdsOfScalars_of_toRat?
    (clause : Clause)
    (operator : Operator)
    {held given : Scalar}
    {heldNumber givenNumber : ℚ}
    (heldDenotes : held.toRat? = some heldNumber)
    (givenDenotes : given.toRat? = some givenNumber) :
    clause.holdsOfScalars operator held given =
      operator.admits (compare heldNumber givenNumber) := by
  cases held with
  | integer held =>
      cases heldDenotes
      cases given with
      | integer given =>
          cases givenDenotes
          rw [Decimal.compare_intCast]
          rfl
      | decimal given =>
          cases givenDenotes
          rw [← Decimal.compareInt_eq_compare_toRat]
          rfl
      | text | boolean | temporal | variant =>
          cases givenDenotes
  | decimal held =>
      cases heldDenotes
      cases given with
      | integer given =>
          cases givenDenotes
          have swapped :
              compare held.toRat (given.toInt : ℚ) =
                (Decimal.compareInt given.toInt held).swap := by
            rw [Decimal.compareInt_eq_compare_toRat, ← cmp_eq_compare, ← cmp_eq_compare,
              cmp_swap]
          rw [swapped]
          rfl
      | decimal given =>
          cases givenDenotes
          rw [← Decimal.compare_eq_compare_toRat]
          rfl
      | text | boolean | temporal | variant =>
          cases givenDenotes
  | text | boolean | temporal | variant =>
      cases heldDenotes

end FieldSearch
