import FieldSearch.Decimal.Basic
import Mathlib.Algebra.Order.Field.Rat
import Mathlib.Algebra.Order.Ring.Cast
import Mathlib.Tactic.FieldSimp

namespace FieldSearch.Decimal

/-!
# The numbers that decimals denote

A decimal denotes a rational number. Decimals are compared across their scales
by multiplying each coefficient with the other denominator, which is the order
of the numbers denoted.
-/

/-- The number that a decimal denotes. -/
def toRat (decimal : Decimal) : ℚ :=
  decimal.numerator / decimal.denominator

theorem denominator_pos (decimal : Decimal) :
    0 < decimal.denominator :=
  Int.pow_pos (by decide)

/-- Integers are in the order of the rational numbers they are. -/
theorem compare_intCast (left right : Int) :
    Ord.compare (left : ℚ) right = Ord.compare left right := by
  rw [← cmp_eq_compare, ← cmp_eq_compare]
  exact Int.cast_strictMono.cmp_map_eq left right

/-- Multiplying each of two fractions with both denominators keeps their order. -/
theorem compare_crosswise
    (leftNumerator rightNumerator : Int)
    {leftDenominator rightDenominator : Int}
    (leftPositive : 0 < leftDenominator)
    (rightPositive : 0 < rightDenominator) :
    Ord.compare (leftNumerator * rightDenominator) (rightNumerator * leftDenominator) =
      Ord.compare (leftNumerator / leftDenominator : ℚ)
        (rightNumerator / rightDenominator : ℚ) := by
  have leftPositive : (0 : ℚ) < leftDenominator := by exact_mod_cast leftPositive
  have rightPositive : (0 : ℚ) < rightDenominator := by exact_mod_cast rightPositive
  have bothPositive : (0 : ℚ) < leftDenominator * rightDenominator :=
    mul_pos leftPositive rightPositive
  have onLeft :
      (leftNumerator / leftDenominator : ℚ) * (leftDenominator * rightDenominator) =
        leftNumerator * rightDenominator := by
    field_simp
  have onRight :
      (rightNumerator / rightDenominator : ℚ) * (leftDenominator * rightDenominator) =
        rightNumerator * leftDenominator := by
    field_simp
  rw [← compare_intCast, ← cmp_eq_compare, ← cmp_eq_compare]
  calc
    cmp ((leftNumerator * rightDenominator : Int) : ℚ) (rightNumerator * leftDenominator : Int) =
        cmp ((leftNumerator / leftDenominator : ℚ) * (leftDenominator * rightDenominator))
          ((rightNumerator / rightDenominator : ℚ) * (leftDenominator * rightDenominator)) := by
      rw [onLeft, onRight, Int.cast_mul, Int.cast_mul]
    _ = cmp (leftNumerator / leftDenominator : ℚ) (rightNumerator / rightDenominator : ℚ) :=
      cmp_mul_pos_right bothPositive _ _

/-- Decimals are in the order of the numbers they denote. -/
theorem compare_eq_compare_toRat (left right : Decimal) :
    left.compare right = Ord.compare left.toRat right.toRat :=
  compare_crosswise left.numerator right.numerator left.denominator_pos right.denominator_pos

/-- An integer and a decimal are in the order of the numbers they denote. -/
theorem compareInt_eq_compare_toRat (left : Int) (right : Decimal) :
    compareInt left right = Ord.compare (left : ℚ) right.toRat := by
  have crosswise :=
    compare_crosswise left right.numerator (by decide : (0 : Int) < 1) right.denominator_pos
  rw [mul_one, Int.cast_one, div_one] at crosswise
  exact crosswise

end FieldSearch.Decimal
