import FieldSearch.Compiler
import FieldSearch.Proofs.Clause.Comparison
import FieldSearch.Proofs.Text.Sigma
import FieldSearch.Record.Developer

namespace FieldSearch

/-!
# Tests of texts when letter case does not count

A test that finds a text as it is written finds it all the more if letter case does
not count, provided that what it looks for has the same lower case form in the texts
that it is part of. A capital sigma at an edge behind which these go on may have
another one there, and then the test misses a text that it has found before.
-/

namespace Operator

/-- The tests of texts for a relation rather than for its absence. -/
inductive FindsText : Operator → Prop where
  | equality : FindsText .eq
  | beginning : FindsText .startsWith
  | ending : FindsText .endsWith
  | part : FindsText .contains

/-- There is a capital sigma at an edge behind which a text that is found may go on. -/
def hasOpenSigma (operator : Operator) (argument : String) : Bool :=
  match operator with
  | .startsWith => Text.endsInSigma argument.toList
  | .endsWith => Text.startsInSigma argument.toList
  | .contains => Text.startsInSigma argument.toList || Text.endsInSigma argument.toList
  | _ => false

section

variable
  {operator : Operator}
  {content argument : String}

theorem FindsText.ne_regex (finds : operator.FindsText) :
    operator ≠ .regex := by
  cases finds <;> decide

@[simp] theorem holdsOfTexts_eq_iff :
    Operator.eq.holdsOfTexts content argument = true ↔ content = argument := by
  simp [holdsOfTexts, normalize, admits]

@[simp] theorem holdsOfTexts_startsWith_iff :
    Operator.startsWith.holdsOfTexts content argument = true ↔
      argument.toList <+: content.toList := by
  simp [holdsOfTexts, normalize]

@[simp] theorem holdsOfTexts_endsWith_iff :
    Operator.endsWith.holdsOfTexts content argument = true ↔
      argument.toList <:+ content.toList := by
  simp [holdsOfTexts, normalize]

@[simp] theorem holdsOfTexts_contains_iff :
    Operator.contains.holdsOfTexts content argument = true ↔
      argument.toList <:+: content.toList := by
  simp [holdsOfTexts, normalize]

/-- Texts without a capital sigma at an open edge stay related in lower case. -/
theorem FindsText.holdsOfTexts_lowercase
    (finds : operator.FindsText)
    (closed : operator.hasOpenSigma argument = false)
    (holds : operator.holdsOfTexts content argument = true) :
    operator.holdsOfTexts (Text.lowercase content) (Text.lowercase argument) = true := by
  cases finds with
  | equality =>
      rw [holdsOfTexts_eq_iff] at holds ⊢
      rw [holds]
  | beginning =>
      rw [holdsOfTexts_startsWith_iff] at holds ⊢
      rw [Text.toList_lowercase, Text.toList_lowercase]
      exact Text.lowerChars_isPrefix closed holds
  | ending =>
      rw [holdsOfTexts_endsWith_iff] at holds ⊢
      rw [Text.toList_lowercase, Text.toList_lowercase]
      exact Text.lowerChars_isSuffix closed holds
  | part =>
      rw [holdsOfTexts_contains_iff] at holds ⊢
      rw [hasOpenSigma, Bool.or_eq_false_iff] at closed
      rw [Text.toList_lowercase, Text.toList_lowercase]
      exact Text.lowerChars_isInfix closed.1 closed.2 holds

/-- A text that is found is part of the text that it is found in. -/
theorem FindsText.isInfix
    (finds : operator.FindsText)
    (holds : operator.holdsOfTexts content argument = true) :
    argument.toList <:+: content.toList := by
  cases finds with
  | equality =>
      rw [holdsOfTexts_eq_iff.mp holds]
  | beginning =>
      exact (holdsOfTexts_startsWith_iff.mp holds).isInfix
  | ending =>
      exact (holdsOfTexts_endsWith_iff.mp holds).isInfix
  | part =>
      exact holdsOfTexts_contains_iff.mp holds

theorem FindsText.holdsOfTexts_lowercase_eq_false
    (finds : operator.FindsText)
    (notPart : ¬ Text.lowerChars argument.toList <:+: Text.lowerChars content.toList) :
    operator.holdsOfTexts (Text.lowercase content) (Text.lowercase argument) = false := by
  rw [← Bool.not_eq_true]
  intro holds
  have isPart := finds.isInfix holds
  rw [Text.toList_lowercase, Text.toList_lowercase] at isPart
  exact notPart isPart

theorem FindsText.of_hasOpenSigma (isOpen : operator.hasOpenSigma argument = true) :
    operator.FindsText := by
  cases operator with
  | startsWith =>
      exact .beginning
  | endsWith =>
      exact .ending
  | contains =>
      exact .part
  | eq | ne | regex | gt | gte | lt | lte | before | after | isIn | notIn | is =>
      cases isOpen

/-- Where a text may go on, it may go on with a letter. -/
theorem exists_letter_of_hasOpenSigma (isOpen : operator.hasOpenSigma argument = true) :
    ∃ content,
      operator.holdsOfTexts content argument = true ∧
        ¬ Text.lowerChars argument.toList <:+: Text.lowerChars content.toList := by
  cases operator with
  | startsWith =>
      refine ⟨String.ofList (argument.toList ++ ['a']), ?_, ?_⟩
      · simp
      · simpa using Text.not_isInfix_of_endsInSigma isOpen
  | endsWith =>
      refine ⟨String.ofList ('a' :: argument.toList), ?_, ?_⟩
      · simp
      · simpa using Text.not_isInfix_of_startsInSigma isOpen
  | contains =>
      rcases Bool.or_eq_true_iff.mp isOpen with starts | ends
      · refine ⟨String.ofList ('a' :: argument.toList), ?_, ?_⟩
        · simpa using (List.suffix_cons 'a' argument.toList).isInfix
        · simpa using Text.not_isInfix_of_startsInSigma starts
      · refine ⟨String.ofList (argument.toList ++ ['a']), ?_, ?_⟩
        · simpa using (List.prefix_append argument.toList ['a']).isInfix
        · simpa using Text.not_isInfix_of_endsInSigma ends
  | eq | ne | regex | gt | gte | lt | lte | before | after | isIn | notIn | is =>
      cases isOpen

end

/-- How a test compares an item: it is a member of a set if it equals one. -/
def itemTest : Operator → Operator
  | .isIn => .eq
  | operator => operator

theorem FindsText.itemTest_eq
    {operator : Operator}
    (finds : operator.FindsText) :
    operator.itemTest = operator := by
  cases finds <;> rfl

end Operator

namespace FieldValue

/-- The items of a list, or a scalar as the only item. -/
def items : FieldValue → List FieldValue
  | missing => []
  | scalar value => [scalar value]
  | list items => items

end FieldValue

namespace Clause

/-- A clause asks for a text, or for one of several. -/
inductive FindsText (clause : Clause) : Prop where
  | single
      (argument : String)
      (value : clause.value = .ofText argument)
      (finds : clause.operator.FindsText)
  | several
      (members : List Operand)
      (value : clause.value = .list members)
      (isIn : clause.operator = .isIn)

/-- The text that a clause asks for has a capital sigma at an open edge. -/
def hasOpenSigma (clause : Clause) : Bool :=
  clause.value.asText?.any clause.operator.hasOpenSigma

section

variable
  {clause : Clause}
  {operator : Operator}

theorem holdsOfScalars_withoutCase
    {held given : Scalar}
    (finds : operator.FindsText)
    (closed : given.asText?.any operator.hasOpenSigma = false)
    (holds : { clause with caseSensitive := true }.holdsOfScalars operator held given = true) :
    { clause with caseSensitive := false }.holdsOfScalars operator held given = true := by
  cases held <;> cases given
  case text.text content argument =>
    simp only [holdsOfScalars, holdsOfTexts, if_neg finds.ne_regex] at holds ⊢
    exact finds.holdsOfTexts_lowercase closed holds
  all_goals exact holds

theorem holdsOfAny_withoutCase
    {held : List FieldValue}
    {given : List Operand}
    (finds : operator.FindsText)
    (closed : ∀ candidate ∈ given, candidate.asText?.any operator.hasOpenSigma = false)
    (holds : { clause with caseSensitive := true }.holdsOfAny operator held given = true) :
    { clause with caseSensitive := false }.holdsOfAny operator held given = true := by
  rw [holdsOfAny_iff] at holds ⊢
  obtain ⟨leaf, isHeld, candidate, isGiven, related⟩ := holds
  exact ⟨leaf, isHeld, candidate, isGiven,
    holdsOfScalars_withoutCase finds (closed _ isGiven) related⟩

namespace FindsText

theorem withCaseSensitive
    (finds : clause.FindsText)
    (caseSensitive : Bool) :
    { clause with caseSensitive := caseSensitive }.FindsText := by
  cases finds with
  | single argument value finds =>
      exact .single argument value finds
  | several members value isIn =>
      exact .several members value isIn

theorem itemTest (finds : clause.FindsText) :
    clause.operator.itemTest.FindsText := by
  cases finds with
  | single _ _ finds =>
      rw [finds.itemTest_eq]
      exact finds
  | several _ _ isIn =>
      rw [isIn]
      exact .equality

/-- A clause that asks for texts compares every item with every candidate. -/
theorem accepts_eq
    (finds : clause.FindsText)
    (held : FieldValue) :
    clause.accepts held =
      clause.holdsOfAny clause.operator.itemTest held.items clause.value.items := by
  cases finds with
  | single argument value finds =>
      rw [finds.itemTest_eq]
      cases held with
      | missing =>
          rfl
      | scalar held =>
          simp [accepts, value, FieldValue.items, Operand.items, Operand.ofText, holdsOfAny,
            holdsOfItems]
      | list items =>
          rw [accepts, acceptsCollection]
          generalize clause.operator = operator at finds ⊢
          cases finds <;> rfl
  | several members value isIn =>
      cases held with
      | missing =>
          rfl
      | scalar held =>
          rw [accepts, value, isIn]
          simp [acceptsMember, isIn]
          rfl
      | list items =>
          rw [accepts, acceptsCollection, isIn]
          rfl

/-- No candidate has a capital sigma at an open edge if the text asked for has none. -/
theorem forall_items_closed
    (finds : clause.FindsText)
    (closed : clause.hasOpenSigma = false) :
    ∀ candidate ∈ clause.value.items,
      candidate.asText?.any clause.operator.itemTest.hasOpenSigma = false := by
  intro candidate member
  cases finds with
  | single argument value finds =>
      rw [value, Operand.ofText, Operand.items, List.mem_singleton] at member
      rw [hasOpenSigma, value] at closed
      rw [finds.itemTest_eq, member]
      exact closed
  | several _ _ isIn =>
      rw [isIn]
      cases candidate.asText? <;> rfl

end FindsText

theorem accepts_withoutCase_of_closed
    (finds : clause.FindsText)
    (closed : clause.hasOpenSigma = false)
    {held : FieldValue}
    (accepted : { clause with caseSensitive := true }.accepts held = true) :
    { clause with caseSensitive := false }.accepts held = true := by
  rw [(finds.withCaseSensitive true).accepts_eq] at accepted
  rw [(finds.withCaseSensitive false).accepts_eq]
  exact holdsOfAny_withoutCase finds.itemTest (finds.forall_items_closed closed) accepted

theorem exists_lost_of_hasOpenSigma (isOpen : clause.hasOpenSigma = true) :
    ∃ content,
      { clause with caseSensitive := true }.accepts (.scalar (.text content)) = true ∧
        { clause with caseSensitive := false }.accepts (.scalar (.text content)) = false := by
  cases value : clause.value with
  | list members =>
      simp [hasOpenSigma, value, Operand.asText?] at isOpen
  | scalar given =>
      cases given with
      | text argument =>
          rw [hasOpenSigma, value] at isOpen
          have finds := Operator.FindsText.of_hasOpenSigma isOpen
          obtain ⟨content, related, notPart⟩ := Operator.exists_letter_of_hasOpenSigma isOpen
          have unrelated := finds.holdsOfTexts_lowercase_eq_false notPart
          refine ⟨content, ?_, ?_⟩ <;>
            simp [accepts, holdsOfScalars, holdsOfTexts, finds.ne_regex, related, unrelated]
      | integer | decimal | boolean | temporal | variant =>
          simp [hasOpenSigma, value, Operand.asText?, Scalar.asText?] at isOpen

end

/--
Without regard to letter case, a clause that asks for texts finds all that it finds
with regard to it, unless the text it asks for has a capital sigma at an edge behind
which the texts that it finds may go on. In that case it misses one of them.
-/
theorem accepts_withoutCase
    (clause : Clause)
    (finds : clause.FindsText) :
    (clause.hasOpenSigma = false →
        ∀ held,
          { clause with caseSensitive := true }.accepts held = true →
            { clause with caseSensitive := false }.accepts held = true) ∧
      (clause.hasOpenSigma = true →
        ∃ content,
          { clause with caseSensitive := true }.accepts (.scalar (.text content)) = true ∧
            { clause with caseSensitive := false }.accepts (.scalar (.text content)) = false) :=
  ⟨fun closed _ => accepts_withoutCase_of_closed finds closed, exists_lost_of_hasOpenSigma⟩

/-- The search for names that begin with a text. -/
def namesFrom (beginning : String) (caseSensitive : Bool) : Clause where
  path := ⟨[], "name"⟩
  operator := .startsWith
  value := .ofText beginning
  caseSensitive := caseSensitive

set_option maxRecDepth 4000 in
/-- Names that begin with ΑΣ may be lost, those that begin with Α are not. -/
theorem accepts_withoutCase_namesFrom :
    (Compiler.ofSchema Record.Developer.schema).compile {} ⟨"name", .startsWith, .single "ΑΣ"⟩ =
        .ok (namesFrom "ΑΣ" true) ∧
      (Compiler.ofSchema Record.Developer.schema).compile (Config.caseInsensitive {})
          ⟨"name", .startsWith, .single "ΑΣ"⟩ = .ok (namesFrom "ΑΣ" false) ∧
        (namesFrom "ΑΣ" true).FindsText ∧
          (∃ name,
            (namesFrom "ΑΣ" true).accepts (.ofText name) = true ∧
              (namesFrom "ΑΣ" false).accepts (.ofText name) = false) ∧
            ∀ held,
              (namesFrom "Α" true).accepts held = true →
                (namesFrom "Α" false).accepts held = true := by
  have finds (beginning : String) : (namesFrom beginning true).FindsText :=
    .single beginning rfl .beginning
  have isOpen : (namesFrom "ΑΣ" true).hasOpenSigma = true := by decide
  have isClosed : (namesFrom "Α" true).hasOpenSigma = false := by decide
  refine ⟨rfl, rfl, finds "ΑΣ", ?_, ?_⟩
  · exact (accepts_withoutCase (namesFrom "ΑΣ" true) (finds "ΑΣ")).2 isOpen
  · exact (accepts_withoutCase (namesFrom "Α" true) (finds "Α")).1 isClosed

end Clause

end FieldSearch
