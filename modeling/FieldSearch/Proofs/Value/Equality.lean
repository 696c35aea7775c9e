import FieldSearch.Proofs.Decimal.Value
import FieldSearch.Value

namespace FieldSearch

/-!
# Equality of values

Values are equal if they have the same structure and equal scalars, where decimals are
equal if they denote the same number. So equality does not see the scale of a decimal,
nor the sign of a zero, and it is an equivalence all the same.
-/

theorem Decimal.sameValue_iff {left right : Decimal} :
    left.sameValue right = true ↔ left.toRat = right.toRat := by
  rw [sameValue, beq_iff_eq, compare_eq_compare_toRat, compare_eq_iff_eq]

namespace Scalar

/-- Equal scalars are the same, or they are decimals that denote the same number. -/
theorem same_iff {left right : Scalar} :
    left.same right = true ↔
      left = right ∨
        ∃ leftNumber rightNumber,
          left = .decimal leftNumber ∧
            right = .decimal rightNumber ∧
              leftNumber.toRat = rightNumber.toRat := by
  cases left <;> cases right <;> simp [same, Decimal.sameValue_iff]
  rintro rfl
  rfl

theorem same_refl (value : Scalar) : value.same value = true :=
  same_iff.mpr (.inl rfl)

theorem same_symm
    {left right : Scalar}
    (same : left.same right = true) :
    right.same left = true := by
  rw [same_iff] at same ⊢
  rcases same with rfl | ⟨_, _, rfl, rfl, sameNumber⟩
  · exact .inl rfl
  · exact .inr ⟨_, _, rfl, rfl, sameNumber.symm⟩

theorem same_trans
    {first second third : Scalar}
    (sameStart : first.same second = true)
    (sameEnd : second.same third = true) :
    first.same third = true := by
  rw [same_iff] at sameStart sameEnd ⊢
  rcases sameStart with rfl | ⟨_, _, rfl, rfl, startNumber⟩
  · exact sameEnd
  · rcases sameEnd with rfl | ⟨_, _, isSecond, rfl, endNumber⟩
    · exact .inr ⟨_, _, rfl, rfl, startNumber⟩
    · cases isSecond
      exact .inr ⟨_, _, rfl, rfl, startNumber.trans endNumber⟩

end Scalar

namespace Operand

mutual

theorem same_refl : ∀ operand : Operand, operand.same operand = true
  | scalar value => value.same_refl
  | list items => sameItems_refl items

theorem sameItems_refl : ∀ items : List Operand, sameItems items items = true
  | [] => rfl
  | item :: rest => Bool.and_eq_true_iff.mpr ⟨same_refl item, sameItems_refl rest⟩

end

mutual

theorem same_symm :
    ∀ {left right : Operand}, left.same right = true → right.same left = true
  | scalar _, scalar _, same => Scalar.same_symm same
  | list _, list _, same => sameItems_symm same

theorem sameItems_symm :
    ∀ {left right : List Operand}, sameItems left right = true → sameItems right left = true
  | [], [], _ => rfl
  | _ :: _, _ :: _, same => by
      obtain ⟨first, rest⟩ := Bool.and_eq_true_iff.mp same
      exact Bool.and_eq_true_iff.mpr ⟨same_symm first, sameItems_symm rest⟩

end

mutual

theorem same_trans :
    ∀ {first second third : Operand},
      first.same second = true → second.same third = true → first.same third = true
  | scalar _, scalar _, scalar _, sameStart, sameEnd => Scalar.same_trans sameStart sameEnd
  | list _, list _, list _, sameStart, sameEnd => sameItems_trans sameStart sameEnd

theorem sameItems_trans :
    ∀ {first second third : List Operand},
      sameItems first second = true → sameItems second third = true →
        sameItems first third = true
  | [], [], [], _, _ => rfl
  | _ :: _, _ :: _, _ :: _, sameStart, sameEnd => by
      obtain ⟨startItem, startRest⟩ := Bool.and_eq_true_iff.mp sameStart
      obtain ⟨endItem, endRest⟩ := Bool.and_eq_true_iff.mp sameEnd
      exact Bool.and_eq_true_iff.mpr
        ⟨same_trans startItem endItem, sameItems_trans startRest endRest⟩

end

end Operand

namespace FieldValue

mutual

/-- Equality of held values, decimals by value and lists item by item. -/
def same : FieldValue → FieldValue → Bool
  | missing, missing => true
  | scalar left, scalar right => left.same right
  | list left, list right => sameItems left right
  | _, _ => false

/-- Equality of lists of held values, item by item. -/
def sameItems : List FieldValue → List FieldValue → Bool
  | [], [] => true
  | left :: lefts, right :: rights => same left right && sameItems lefts rights
  | _, _ => false

end

end FieldValue

end FieldSearch
