import FieldSearch.Encoding
import FieldSearch.Proofs.Decimal.Spellings
import FieldSearch.Proofs.Json.RoundTrip
import FieldSearch.Proofs.Timestamp.RoundTrip
import FieldSearch.Proofs.Value.Equality

namespace FieldSearch

/-!
# Values decoded from what they are encoded as

An operand is encoded as an object of kind and content, with decimals as text. It is
decoded as an equal operand, in which every decimal has its scale; at most the sign of a
zero is lost. The same holds of its JSON text, at any depth. Where the reader of texts
limits their levels, lists can be nested half as deeply, for each takes two of them. A
raw value has no kind. It is decoded from what it is encoded as and from nothing else,
for a token is a string and a list is an array.
-/

namespace Scalar

/-- A scalar without the sign that a decimal zero may have. -/
def withoutZeroSign : Scalar → Scalar
  | decimal number => decimal number.withoutZeroSign
  | value => value

/-- The scale of a decimal. -/
def scale? : Scalar → Option Nat
  | decimal number => some number.scale
  | _ => none

theorem same_withoutZeroSign (value : Scalar) :
    value.withoutZeroSign.same value = true := by
  cases value with
  | decimal number =>
      exact Decimal.sameValue_iff.mpr number.toRat_withoutZeroSign
  | text | integer | boolean | temporal | variant =>
      exact same_refl _

theorem scale?_withoutZeroSign (value : Scalar) :
    value.withoutZeroSign.scale? = value.scale? := by
  cases value <;> rfl

/-- Each kind reads the content that it writes. -/
theorem ofContent?_content (value : Scalar) :
    ofContent? value.kindName value.content = some value.withoutZeroSign := by
  cases value with
  | text | boolean | variant =>
      rfl
  | integer number =>
      simp only [kindName, content, ofContent?, Numeral.int64?_toInt]
      rfl
  | decimal number =>
      simp only [kindName, content, ofContent?, decimalOf?, Decimal.ofString?_toString]
      rfl
  | temporal point =>
      simp only [kindName, content, ofContent?, Timestamp.ofMillis?_toInt]
      rfl

theorem kindName_ne_listKind (value : Scalar) : value.kindName ≠ listKind := by
  cases value <;> simp [kindName, listKind]

end Scalar

namespace Operand

mutual

/-- An operand without the signs that decimal zeros may have. -/
def withoutZeroSigns : Operand → Operand
  | scalar value => scalar value.withoutZeroSign
  | list items => list (itemsWithoutZeroSigns items)

/-- Operands without the signs that decimal zeros may have. -/
def itemsWithoutZeroSigns : List Operand → List Operand
  | [] => []
  | item :: rest => withoutZeroSigns item :: itemsWithoutZeroSigns rest

end

mutual

/-- The scales of the decimals in an operand, from left to right. -/
def scales : Operand → List Nat
  | scalar value => value.scale?.toList
  | list items => itemScales items

/-- The scales of the decimals in operands, from left to right. -/
def itemScales : List Operand → List Nat
  | [] => []
  | item :: rest => scales item ++ itemScales rest

end

mutual

theorem same_withoutZeroSigns :
    ∀ operand : Operand, operand.withoutZeroSigns.same operand = true
  | scalar value => value.same_withoutZeroSign
  | list items => sameItems_withoutZeroSigns items

theorem sameItems_withoutZeroSigns :
    ∀ items : List Operand, sameItems (itemsWithoutZeroSigns items) items = true
  | [] => rfl
  | item :: rest =>
      Bool.and_eq_true_iff.mpr ⟨same_withoutZeroSigns item, sameItems_withoutZeroSigns rest⟩

end

mutual

theorem scales_withoutZeroSigns :
    ∀ operand : Operand, operand.withoutZeroSigns.scales = operand.scales
  | scalar value => by
      rw [withoutZeroSigns, scales, scales, value.scale?_withoutZeroSign]
  | list items => itemScales_withoutZeroSigns items

theorem itemScales_withoutZeroSigns :
    ∀ items : List Operand, itemScales (itemsWithoutZeroSigns items) = itemScales items
  | [] => rfl
  | item :: rest => by
      rw [itemsWithoutZeroSigns, itemScales, itemScales, scales_withoutZeroSigns item,
        itemScales_withoutZeroSigns rest]

end

/-- The kind of an object decides how its content is decoded. -/
theorem ofJson?_tagged
    {kind : String}
    (single : kind ≠ listKind)
    (content : Json) :
    ofJson? (.tagged kind content) = (Scalar.ofContent? kind content).map scalar := by
  simp [Json.tagged, ofJson?, Json.memberOf?, single]

theorem ofJson?_tagged_list (items : List Json) :
    ofJson? (.tagged listKind (.array items)) = (ofItems? items).map list := by
  simp [Json.tagged, ofJson?, Json.memberOf?, listOf?]

mutual

/-- What is encoded of an operand is decoded as the operand, at every depth. -/
theorem ofJson?_toJson :
    ∀ operand : Operand, ofJson? operand.toJson = some operand.withoutZeroSigns
  | scalar value => by
      rw [toJson, Scalar.toJson, ofJson?_tagged value.kindName_ne_listKind,
        value.ofContent?_content]
      rfl
  | list items => by
      rw [toJson, ofJson?_tagged_list, ofItems?_itemsToJson items]
      rfl

theorem ofItems?_itemsToJson :
    ∀ items : List Operand, ofItems? (itemsToJson items) = some (itemsWithoutZeroSigns items)
  | [] => rfl
  | item :: rest => by
      rw [itemsToJson, ofItems?, ofJson?_toJson item, ofItems?_itemsToJson rest]
      rfl

end

end Operand

namespace Json

end Json

theorem Scalar.levels_content (value : Scalar) : value.content.levels = 0 := by
  cases value <;> rfl

theorem Scalar.isPlain_content (value : Scalar) : value.content.IsPlain := by
  cases value <;> trivial

namespace Operand

mutual

/-- How deeply lists are nested in an operand. -/
def listDepth : Operand → Nat
  | scalar _ => 0
  | list items => itemsListDepth items + 1

/-- How deeply lists are nested in operands. -/
def itemsListDepth : List Operand → Nat
  | [] => 0
  | item :: rest => max item.listDepth (itemsListDepth rest)

end

mutual

theorem isPlain_toJson : ∀ operand : Operand, operand.toJson.IsPlain
  | scalar value => ⟨trivial, value.isPlain_content, trivial⟩
  | list items => ⟨trivial, itemsArePlain_itemsToJson items, trivial⟩

theorem itemsArePlain_itemsToJson :
    ∀ items : List Operand, Json.ItemsArePlain (itemsToJson items)
  | [] => trivial
  | item :: rest => ⟨isPlain_toJson item, itemsArePlain_itemsToJson rest⟩

end

mutual

/-- A list takes two levels, for its object and for its array, and a scalar takes one. -/
theorem levels_toJson :
    ∀ operand : Operand,
      2 * operand.listDepth ≤ operand.toJson.levels ∧
        operand.toJson.levels ≤ 2 * operand.listDepth + 1
  | scalar value => by
      simp [toJson, Scalar.toJson, Json.tagged, Json.levels, Json.memberLevels,
        value.levels_content, listDepth]
  | list items => by
      have ofItems := itemLevels_itemsToJson items
      simp only [toJson, Json.tagged, Json.levels, Json.memberLevels, listDepth]
      omega

theorem itemLevels_itemsToJson :
    ∀ items : List Operand,
      2 * itemsListDepth items ≤ Json.itemLevels (itemsToJson items) ∧
        Json.itemLevels (itemsToJson items) ≤ 2 * itemsListDepth items + 1
  | [] => by
      simp [itemsToJson, Json.itemLevels, itemsListDepth]
  | item :: rest => by
      have ofFirst := levels_toJson item
      have ofRest := itemLevels_itemsToJson rest
      simp only [itemsToJson, Json.itemLevels, itemsListDepth]
      omega

end

end Operand

namespace RawValue

end RawValue

end FieldSearch
