import FieldSearch.Proofs.Sql.Like
import FieldSearch.Proofs.Sql.Lowering

namespace FieldSearch.Clause

open Sql

/-!
# Searches in texts as LIKE patterns

A clause that searches in texts becomes a LIKE condition. Its pattern matches just
the texts in which the operator finds the text of the clause. If letter case does
not count, the finished pattern is lowered; that is the pattern of the lowered text.
-/

section

variable
  {clause : Clause}
  {argument : String}
  (isText : clause.value = .ofText argument)

include isText

/-- A clause over a text compares lower case forms just if letter case does not count. -/
theorem lowersText_of_text : clause.lowersText = !clause.caseSensitive := by
  simp [lowersText, isText, Operand.ofText, Operand.leadsWithText]

/-- The pattern of a clause over a text is that of the text or of its lower case form. -/
theorem likePattern_of_text (placement : Like.Placement) :
    clause.likePattern placement =
      String.ofList
        (Like.pattern placement
          (if clause.lowersText then Text.lowercase argument else argument).toList) := by
  simp only [likePattern, isText, Operand.ofText, Operand.asText?, Scalar.asText?,
    Option.getD_some]
  cases clause.lowersText with
  | false =>
      rfl
  | true =>
      simp [Text.lowercase, Like.lowerChars_pattern]

end

/--
The LIKE pattern of a clause over a text means what the text operator means. Where
letter case counts, the text is escaped one special character after another, and the
pattern matches just the subjects in which the operator finds the text. Where it
does not, the pattern is that of the lowered text. A clause over a single value is
lowered to the condition with this pattern.
-/
theorem likePattern_finds
    (clause : Clause)
    (argument : String)
    (isText : clause.value = .ofText argument)
    (operator : Operator)
    (placement : Like.Placement)
    (placed : Like.Placement.ofOperator? operator = some placement) :
    (clause.caseSensitive = true →
      (clause.likePattern placement).toList =
        Like.wildcard placement.afterAny ++
          Like.escapeEach '_'
            (Like.escapeEach '%' (Like.escapeEach '\\' argument.toList)) ++
          Like.wildcard placement.beforeAny ∧
        ∀ subject : String,
          Like.isMatch (clause.likePattern placement).toList subject.toList = true ↔
            Like.Finds operator argument.toList subject.toList) ∧
      (clause.caseSensitive = false →
        clause.likePattern placement =
          { clause with
            value := .ofText (Text.lowercase argument)
            caseSensitive := true }.likePattern placement) ∧
        (clause.shape = .scalar →
          clause.operator.normalize = operator →
            clause.toSql = .ok (.like clause.column (clause.likePattern placement))) := by
  refine ⟨?_, ?_, ?_⟩
  · intro caseCounts
    have asWritten : clause.lowersText = false := by
      rw [lowersText_of_text isText, caseCounts]
      rfl
    have pattern :
        (clause.likePattern placement).toList = Like.pattern placement argument.toList := by
      rw [likePattern_of_text isText, asWritten, String.toList_ofList]
      rfl
    rw [pattern]
    constructor
    · rw [Like.pattern, Like.escape_eq_escapeEach]
      rfl
    · intro subject
      exact Like.isMatch_pattern_iff_finds placed argument.toList subject.toList
  · intro caseIgnored
    have lowered : clause.lowersText = true := by
      rw [lowersText_of_text isText, caseIgnored]
      rfl
    rw [likePattern_of_text isText, likePattern_of_text rfl, lowered, lowersText_of_text rfl]
    rfl
  · intro isScalar isOperator
    have single : clause.value.isList = false := by
      rw [isText]
      rfl
    rw [toSql_of_single isScalar single, scalarCondition, isOperator]
    cases operator <;> cases placed <;> rfl

/-- A search for a reduced price. -/
def reduced (price : String) (caseSensitive : Bool) : Clause where
  path := ⟨[], "name"⟩
  operator := .contains
  value := .ofText price
  caseSensitive := caseSensitive

/-- The special characters in a price are searched as they are, in any letter case. -/
theorem likePattern_finds_reduced :
    ((reduced "50%_Off" true).likePattern ⟨true, true⟩).toList = "%50\\%\\_Off%".toList ∧
      Like.isMatch ((reduced "50%_Off" true).likePattern ⟨true, true⟩).toList
          "Now 50%_Off!".toList = true ∧
        Like.isMatch ((reduced "50%_Off" true).likePattern ⟨true, true⟩).toList
          "Now 50%-Off!".toList = false ∧
          (reduced "50%_Off" false).toSql =
            .ok (.like ⟨["name"], true⟩ "%50\\%\\_off%") := by
  obtain ⟨asWritten, -, -⟩ :=
    likePattern_finds (reduced "50%_Off" true) "50%_Off" rfl .contains ⟨true, true⟩ rfl
  obtain ⟨-, folded, condition⟩ :=
    likePattern_finds (reduced "50%_Off" false) "50%_Off" rfl .contains ⟨true, true⟩ rfl
  obtain ⟨written, finds⟩ := asWritten rfl
  refine ⟨?_, ?_, ?_, ?_⟩
  · rw [written]
    decide
  · rw [finds]
    exact ⟨"Now ".toList, "!".toList, by decide⟩
  · rw [Bool.eq_false_iff, ne_eq, finds, Like.Finds]
    decide
  · rw [condition rfl rfl, folded rfl]
    rfl

end FieldSearch.Clause
