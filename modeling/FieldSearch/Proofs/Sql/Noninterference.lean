import FieldSearch.Proofs.Clause.WellTyped
import FieldSearch.Proofs.Sql.Lowering

namespace FieldSearch

open Outcomes Sql

/-!
# Values in SQL conditions

The written form of a condition shows three things of a clause's value: whether
it is a list, how many items it has and whether it leads with a text. Values that
are read from raw values of the same form, for one field, are alike in all three,
and strategies build clauses on them that are alike in everything else. What a
user enters therefore shows in the parameters of a condition alone.
-/

/-- Raw values of the same form: single tokens, or lists of the same length. -/
def RawValue.SameForm : RawValue → RawValue → Prop
  | .single _, .single _ => True
  | .list left, .list right => left.length = right.length
  | _, _ => False

/-- Operands that show in the same way. -/
structure Operand.Alike (left right : Operand) : Prop where
  isList_eq : left.isList = right.isList
  length_eq : left.items.length = right.items.length
  leadsWithText_eq : left.leadsWithText = right.leadsWithText

/-- Clauses that differ at most in their values, which show in the same way. -/
structure Clause.Alike (left right : Clause) : Prop where
  path_eq : left.path = right.path
  operator_eq : left.operator = right.operator
  caseSensitive_eq : left.caseSensitive = right.caseSensitive
  shape_eq : left.shape = right.shape
  value_alike : left.value.Alike right.value

/-- What shows of a condition: its written form and the number of its parameters. -/
def Sql.Condition.frame (condition : Condition) : List Char × Nat :=
  (condition.toChars, condition.parameters.length)

theorem RawValue.SameForm.single_or_list
    {first second : RawValue}
    (sameForm : first.SameForm second) :
    (∃ token other, first = .single token ∧ second = .single other) ∨
      ∃ tokens others,
        first = .list tokens ∧ second = .list others ∧ tokens.length = others.length := by
  cases first with
  | single token =>
      cases second with
      | single other =>
          exact .inl ⟨token, other, rfl, rfl⟩
      | list others =>
          cases sameForm
  | list tokens =>
      cases second with
      | single other =>
          cases sameForm
      | list others =>
          exact .inr ⟨tokens, others, rfl, rfl, sameForm⟩

namespace Operand

theorem leadsWithText_intoList (operand : Operand) :
    operand.intoList.leadsWithText = operand.leadsWithText := by
  cases operand <;> rfl

theorem Alike.intoList
    {left right : Operand}
    (alike : left.Alike right) :
    left.intoList.Alike right.intoList where
  isList_eq := by
    rw [isList_intoList, isList_intoList]
  length_eq := by
    rw [items_intoList, items_intoList, alike.length_eq]
  leadsWithText_eq := by
    rw [leadsWithText_intoList, leadsWithText_intoList, alike.leadsWithText_eq]

/-- Whether a value of a type leads with a text can be told from the type. -/
theorem leadsWithText_of_isLeafOf
    {type : ValueType}
    {operand : Operand}
    (typed : operand.IsLeafOf type) :
    operand.leadsWithText = (type.kind == .text) := by
  obtain ⟨leaf, rfl, leafTyped⟩ := typed
  rw [← leafTyped.kind_eq]
  cases leaf <;> rfl

theorem alike_of_isLeafOf
    {type : ValueType}
    {left right : Operand}
    (leftTyped : left.IsLeafOf type)
    (rightTyped : right.IsLeafOf type) :
    left.Alike right := by
  have sameLead : left.leadsWithText = right.leadsWithText := by
    rw [leadsWithText_of_isLeafOf leftTyped, leadsWithText_of_isLeafOf rightTyped]
  obtain ⟨first, rfl, -⟩ := leftTyped
  obtain ⟨second, rfl, -⟩ := rightTyped
  exact ⟨rfl, rfl, sameLead⟩

theorem alike_list
    {type : ValueType}
    {left right : List Operand}
    (leftTyped : ∀ item ∈ left, item.IsLeafOf type)
    (rightTyped : ∀ item ∈ right, item.IsLeafOf type)
    (sameLength : left.length = right.length) :
    (list left).Alike (list right) := by
  refine ⟨rfl, sameLength, ?_⟩
  cases left with
  | nil =>
      obtain rfl := List.length_eq_zero_iff.mp sameLength.symm
      rfl
  | cons first rest =>
      cases right with
      | nil =>
          cases sameLength
      | cons second others =>
          rw [List.forall_mem_cons] at leftTyped rightTyped
          exact (alike_of_isLeafOf leftTyped.1 rightTyped.1).leadsWithText_eq

end Operand

/-! The conditions of clauses that are alike. -/

theorem frame_member
    (column : Column)
    (negated : Bool)
    {members others : List Operand}
    (sameLength : members.length = others.length) :
    (Condition.member column negated members).frame =
      (Condition.member column negated others).frame := by
  simp [Condition.frame, Condition.toChars, Condition.parameters, sameLength]

theorem frame_element
    (relation : Column)
    (negated : Bool)
    {members others : List Operand}
    (sameLength : members.length = others.length) :
    (Condition.element relation negated members).frame =
      (Condition.element relation negated others).frame := by
  simp [Condition.frame, Condition.toChars, Condition.parameters, sameLength]

namespace Clause.Alike

variable {left right : Clause}

theorem lowersText_eq (alike : left.Alike right) :
    left.lowersText = right.lowersText := by
  rw [lowersText, lowersText, alike.caseSensitive_eq, alike.value_alike.leadsWithText_eq]

theorem column_eq (alike : left.Alike right) :
    left.column = right.column := by
  rw [column, column, alike.path_eq, alike.lowersText_eq]

/-- Tests for membership show the number of their members, and nothing else of them. -/
theorem frame_membership
    (alike : left.Alike right)
    {test : Column → Bool → List Operand → Condition}
    (counts :
      ∀ column negated {members others : List Operand},
        members.length = others.length →
          (test column negated members).frame = (test column negated others).frame)
    (kind : String) :
    ((isNegated left.operator.normalize kind).map fun negated =>
        left.membershipCondition test negated left.value.items).map Condition.frame =
      ((isNegated right.operator.normalize kind).map fun negated =>
        right.membershipCondition test negated right.value.items).map Condition.frame := by
  rw [alike.operator_eq]
  cases isNegated right.operator.normalize kind with
  | error failure =>
      rfl
  | ok negated =>
      have sameLength := alike.value_alike.length_eq
      have sameEmptiness : left.value.items.isEmpty = right.value.items.isEmpty := by
        rw [Bool.eq_iff_iff, List.isEmpty_iff_length_eq_zero, List.isEmpty_iff_length_eq_zero,
          sameLength]
      have sameFrame :
          (left.membershipCondition test negated left.value.items).frame =
            (right.membershipCondition test negated right.value.items).frame := by
        unfold membershipCondition
        rw [sameEmptiness, alike.column_eq]
        split
        · rfl
        · exact counts _ _ (by simpa using sameLength)
      exact congrArg Except.ok sameFrame

theorem frame_scalarCondition
    (alike : left.Alike right) :
    left.scalarCondition.map Condition.frame = right.scalarCondition.map Condition.frame := by
  unfold scalarCondition
  rw [alike.operator_eq, alike.column_eq]
  dsimp only
  split <;> rfl

/-- Clauses that are alike have conditions of the same form, or are refused alike. -/
theorem frame_toSql (alike : left.Alike right) :
    left.toSql.map Condition.frame = right.toSql.map Condition.frame := by
  cases shape : right.shape with
  | collection =>
      rw [toSql_of_collection (alike.shape_eq.trans shape), toSql_of_collection shape]
      exact alike.frame_membership frame_element "Collection"
  | scalar =>
      have leftShape := alike.shape_eq.trans shape
      cases isList : right.value.isList with
      | true =>
          rw [toSql_of_isList leftShape (alike.value_alike.isList_eq.trans isList),
            toSql_of_isList shape isList]
          exact alike.frame_membership frame_member "SQL membership"
      | false =>
          rw [toSql_of_single leftShape (alike.value_alike.isList_eq.trans isList),
            toSql_of_single shape isList]
          exact alike.frame_scalarCondition

end Clause.Alike

/-! Strategies read and build alike. -/

namespace Strategy

theorem length_of_readEach
    {read : String → Except ConversionError Operand}
    {tokens : List String}
    {operands : List Operand}
    (readAll : readEach read tokens = .ok operands) :
    operands.length = tokens.length := by
  induction tokens generalizing operands with
  | nil =>
      cases readAll
      rfl
  | cons token rest inductionHypothesis =>
      rw [readEach] at readAll
      obtain ⟨first, -, later⟩ := bind_eq_ok.mp readAll
      obtain ⟨others, othersRead, listed⟩ := bind_eq_ok.mp later
      cases listed
      simp [inductionHypothesis othersRead]

/-- Raw values of the same form are read alike. -/
theorem alike_of_standard_readRaw
    {type : ValueType}
    {caseSensitive : Bool}
    {first second : RawValue}
    (sameForm : first.SameForm second)
    {left right : Operand}
    (leftRead :
      (StrategyTable.standard.scalar type.kind caseSensitive).readRaw type first = .ok left)
    (rightRead :
      (StrategyTable.standard.scalar type.kind caseSensitive).readRaw type second = .ok right) :
    left.Alike right := by
  rcases sameForm.single_or_list with
    ⟨token, other, rfl, rfl⟩ | ⟨tokens, others, rfl, rfl, sameLength⟩
  · exact Operand.alike_of_isLeafOf (isLeafOf_of_standard_read leftRead)
      (isLeafOf_of_standard_read rightRead)
  · rw [readRaw, standard_readAll, map_eq_ok] at leftRead rightRead
    obtain ⟨leftItems, leftItemsRead, rfl⟩ := leftRead
    obtain ⟨rightItems, rightItemsRead, rfl⟩ := rightRead
    refine Operand.alike_list
      (readEach_forall (fun _ _ => isLeafOf_of_standard_read) leftItemsRead)
      (readEach_forall (fun _ _ => isLeafOf_of_standard_read) rightItemsRead) ?_
    rw [length_of_readEach leftItemsRead, length_of_readEach rightItemsRead]
    exact sameLength

theorem alike_of_fit_readRaw
    {type : ValueType}
    {caseSensitive : Bool}
    (shape : FieldShape)
    {first second : RawValue}
    (sameForm : first.SameForm second)
    {left right : Operand}
    (leftRead :
      (StrategyTable.fit (StrategyTable.standard.scalar type.kind caseSensitive) shape).readRaw
        type first = .ok left)
    (rightRead :
      (StrategyTable.fit (StrategyTable.standard.scalar type.kind caseSensitive) shape).readRaw
        type second = .ok right) :
    left.Alike right := by
  cases shape with
  | scalar =>
      exact alike_of_standard_readRaw sameForm leftRead rightRead
  | collection =>
      rcases sameForm.single_or_list with
        ⟨token, other, rfl, rfl⟩ | ⟨tokens, others, rfl, rfl, -⟩
      · obtain ⟨leftPlain, leftPlainRead, rfl⟩ := map_eq_ok.mp leftRead
        obtain ⟨rightPlain, rightPlainRead, rfl⟩ := map_eq_ok.mp rightRead
        exact (Operand.alike_of_isLeafOf (isLeafOf_of_standard_read leftPlainRead)
          (isLeafOf_of_standard_read rightPlainRead)).intoList
      · exact alike_of_standard_readRaw sameForm leftRead rightRead

/-- On values that are alike, plain clauses differ in nothing else. -/
theorem alike_of_scalarClause
    {kind : String}
    {admitted : Operator → Bool}
    {target : FieldPath}
    {operator : Operator}
    {first second : Operand}
    (alike : first.Alike second)
    {left right : Clause}
    (leftBuilt : scalarClause kind admitted target operator first = .ok left)
    (rightBuilt : scalarClause kind admitted target operator second = .ok right) :
    left.Alike right := by
  unfold scalarClause at leftBuilt rightBuilt
  -- Whether a value is a list is all that is asked of it, so both take the same branch.
  rw [alike.isList_eq] at leftBuilt
  split at leftBuilt
  · next setTest =>
      rw [if_pos setTest] at rightBuilt
      cases form : operator.asMembership? with
      | none =>
          simp [form] at leftBuilt
      | some membership =>
          simp only [form] at leftBuilt rightBuilt
          split at leftBuilt
          · next isAdmitted =>
              rw [if_pos isAdmitted] at rightBuilt
              cases leftBuilt
              cases rightBuilt
              exact ⟨rfl, rfl, rfl, rfl, alike.intoList⟩
          · cases leftBuilt
  · next notSetTest =>
      rw [if_neg notSetTest] at rightBuilt
      split at leftBuilt
      · next isAdmitted =>
          rw [if_pos isAdmitted] at rightBuilt
          cases leftBuilt
          cases rightBuilt
          exact ⟨rfl, rfl, rfl, rfl, alike⟩
      · cases leftBuilt

theorem alike_of_textClause
    {caseSensitive : Bool}
    {target : FieldPath}
    {operator : Operator}
    {first second : Operand}
    (alike : first.Alike second)
    {left right : Clause}
    (leftBuilt : textClause caseSensitive target operator first = .ok left)
    (rightBuilt : textClause caseSensitive target operator second = .ok right) :
    left.Alike right := by
  rcases textClause_eq_ok leftBuilt with
    ⟨isPattern, leftPattern⟩ | ⟨notPattern, leftPlain, leftPlainBuilt, rfl⟩
  · rcases textClause_eq_ok rightBuilt with ⟨-, rightPattern⟩ | ⟨notPattern, -⟩
    · obtain ⟨_, -, -, rfl⟩ := patternClause_eq_ok leftPattern
      obtain ⟨_, -, -, rfl⟩ := patternClause_eq_ok rightPattern
      exact ⟨rfl, rfl, rfl, rfl, alike⟩
    · exact absurd isPattern notPattern
  · rcases textClause_eq_ok rightBuilt with ⟨isPattern, -⟩ | ⟨-, rightPlain, rightPlainBuilt, rfl⟩
    · exact absurd isPattern notPattern
    · have plain := alike_of_scalarClause alike leftPlainBuilt rightPlainBuilt
      exact { plain with caseSensitive_eq := rfl }

theorem alike_of_standard_build
    {kind : ValueKind}
    {caseSensitive : Bool}
    {target : FieldPath}
    {operator : Operator}
    {first second : Operand}
    (alike : first.Alike second)
    {left right : Clause}
    (leftBuilt :
      (StrategyTable.standard.scalar kind caseSensitive).build target operator first = .ok left)
    (rightBuilt :
      (StrategyTable.standard.scalar kind caseSensitive).build target operator second =
        .ok right) :
    left.Alike right := by
  by_cases isText : kind = .text
  · rw [isText, standard_build_text] at leftBuilt rightBuilt
    exact alike_of_textClause alike leftBuilt rightBuilt
  · obtain ⟨admitted, -, builds⟩ := standard_build_eq_scalarClause isText caseSensitive
    rw [builds] at leftBuilt rightBuilt
    exact alike_of_scalarClause alike leftBuilt rightBuilt

/-- Fitted to the shape of a field, too, the standard strategies build alike. -/
theorem alike_of_fit_build
    {kind : ValueKind}
    {caseSensitive : Bool}
    (shape : FieldShape)
    {target : FieldPath}
    {operator : Operator}
    {first second : Operand}
    (alike : first.Alike second)
    {left right : Clause}
    (leftBuilt :
      (StrategyTable.fit (StrategyTable.standard.scalar kind caseSensitive) shape).build
        target operator first = .ok left)
    (rightBuilt :
      (StrategyTable.fit (StrategyTable.standard.scalar kind caseSensitive) shape).build
        target operator second = .ok right) :
    left.Alike right := by
  cases shape with
  | scalar =>
      exact alike_of_standard_build alike leftBuilt rightBuilt
  | collection =>
      obtain ⟨membership, leftInner, form, leftInnerBuilt, rfl⟩ :=
        collection_build_eq_ok leftBuilt
      obtain ⟨other, rightInner, otherForm, rightInnerBuilt, rfl⟩ :=
        collection_build_eq_ok rightBuilt
      rw [form] at otherForm
      cases otherForm
      have inner := alike_of_standard_build alike.intoList leftInnerBuilt rightInnerBuilt
      exact { inner with shape_eq := rfl }

end Strategy

namespace Compiler

/-- What is compiled at one attribute from raw values of the same form is alike. -/
theorem alike_of_compileFound
    {root : FieldType}
    {settings : CaseSettings}
    {operator : Operator}
    {first second : RawValue}
    (sameForm : first.SameForm second)
    {passed : List Attribute}
    {context : FieldType}
    {found : Attribute}
    {left right : Clause}
    (leftCompiled :
      Compiler.compileFound { root := root } { settings := settings } operator first
        passed context found = .ok left)
    (rightCompiled :
      Compiler.compileFound { root := root } { settings := settings } operator second
        passed context found = .ok right) :
    left.Alike right := by
  obtain ⟨type, leftOperand, declared, leftRead, leftBuilt⟩ := compileFound_eq_ok leftCompiled
  obtain ⟨other, rightOperand, otherDeclared, rightRead, rightBuilt⟩ :=
    compileFound_eq_ok rightCompiled
  rw [declared] at otherDeclared
  cases otherDeclared
  have operands := Strategy.alike_of_fit_readRaw _ sameForm leftRead rightRead
  exact Strategy.alike_of_fit_build _ operands leftBuilt rightBuilt

/--
Values do not show in the written form of a condition. If a search is compiled to
SQL with either of two raw values of the same form, the two conditions are written
alike and have equally many parameters.
-/
theorem compileSql_hides_values
    (schema : EntitySchema)
    (settings : CaseSettings)
    (key : String)
    (accepted : Key.wellFormed key = true)
    (operator : Operator)
    (first second : RawValue)
    (sameForm : first.SameForm second)
    (left right : Sql.Condition)
    (leftCompiled :
      (Compiler.ofSchema schema).compileSql { settings := settings } ⟨key, operator, first⟩ =
        .ok left)
    (rightCompiled :
      (Compiler.ofSchema schema).compileSql { settings := settings } ⟨key, operator, second⟩ =
        .ok right) :
    left.toText = right.toText ∧ left.parameters.length = right.parameters.length := by
  obtain ⟨leftClause, leftClauseCompiled, leftLowered⟩ := bind_eq_ok.mp leftCompiled
  obtain ⟨rightClause, rightClauseCompiled, rightLowered⟩ := bind_eq_ok.mp rightCompiled
  rcases (Compiler.ofSchema schema).compile_by_key accepted with
    ⟨passed, context, found, arrives⟩ | ⟨field, name, isStuck⟩
  · rw [arrives] at leftClauseCompiled rightClauseCompiled
    have alike := alike_of_compileFound sameForm leftClauseCompiled rightClauseCompiled
    have sameFrame := alike.frame_toSql
    rw [leftLowered, rightLowered] at sameFrame
    simp only [Except.map, Except.ok.injEq, Condition.frame, Prod.mk.injEq] at sameFrame
    rw [Condition.toText, Condition.toText, sameFrame.1]
    exact ⟨rfl, sameFrame.2⟩
  · rw [isStuck] at leftClauseCompiled
    cases leftClauseCompiled

/-- Searches for addresses without certain lines, of which one looks like SQL. -/
theorem compileSql_hides_values_addressLines :
    ∃ left right,
      (Compiler.ofSchema Record.Address.schema).compileSql { settings := {} }
          ⟨"LINES", .ne, .list ["a", "b"]⟩ = .ok left ∧
        (Compiler.ofSchema Record.Address.schema).compileSql { settings := {} }
            ⟨"LINES", .ne, .list ["?", "') OR 1 = 1"]⟩ = .ok right ∧
          left.toText = right.toText ∧ left.parameters.length = right.parameters.length := by
  refine ⟨_, _, rfl, rfl, ?_⟩
  exact compileSql_hides_values Record.Address.schema {} "LINES" (by decide) .ne
    (.list ["a", "b"]) (.list ["?", "') OR 1 = 1"]) rfl _ _ rfl rfl

end Compiler

end FieldSearch
