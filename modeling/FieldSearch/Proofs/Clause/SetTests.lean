import FieldSearch.Proofs.Clause.LetterCase

namespace FieldSearch

/-!
# Set tests

The candidates of a set test form a set, and so do the items of a collection. Whether
a value is in a set is decided by some candidate and some item, whether it is not by
all of them. So a joined list amounts to a disjunction or a conjunction of tests, an
empty one is neutral, and neither order nor repetition has a part in the outcome.
-/

/-- A test of lists that some member decides: it holds of a joined list if it does of a part. -/
structure DecidedBySome (test : List α → Bool) : Prop where
  nil : test [] = false
  append : ∀ left right, test (left ++ right) = (test left || test right)
  /-- Lists with the same members, however often and in whatever order, pass alike. -/
  eq_of_mem_iff : ∀ left right, (∀ item, item ∈ left ↔ item ∈ right) → test left = test right

/-- A test of lists that all members decide: it holds of a joined list if it does of both parts. -/
structure DecidedByAll (test : List α → Bool) : Prop where
  nil : test [] = true
  append : ∀ left right, test (left ++ right) = (test left && test right)
  /-- Lists with the same members, however often and in whatever order, pass alike. -/
  eq_of_mem_iff : ∀ left right, (∀ item, item ∈ left ↔ item ∈ right) → test left = test right

/-- To ask for a member that passes is to be decided by some. -/
theorem DecidedBySome.of_any
    {test : List α → Bool}
    {passes : α → Bool}
    (isAny : ∀ items, test items = items.any passes) :
    DecidedBySome test where
  nil := isAny []
  append left right := by
    rw [isAny, isAny, isAny, List.any_append]
  eq_of_mem_iff left right sameMembers := by
    rw [isAny, isAny, Bool.eq_iff_iff, List.any_eq_true, List.any_eq_true]
    simp only [sameMembers]

/-- Where a test is decided by some, its negation is decided by all. -/
theorem DecidedBySome.not
    {test negated : List α → Bool}
    (bySome : DecidedBySome test)
    (isNegated : ∀ items, negated items = !test items) :
    DecidedByAll negated where
  nil := by
    rw [isNegated, bySome.nil, Bool.not_false]
  append left right := by
    rw [isNegated, isNegated, isNegated, bySome.append, Bool.not_or]
  eq_of_mem_iff left right sameMembers := by
    rw [isNegated, isNegated, bySome.eq_of_mem_iff left right sameMembers]

namespace Clause

/-- The test of whether a value is among some candidates, in the letter case of a clause. -/
def inSet (clause : Clause) (candidates : List Operand) : Clause :=
  { clause with operator := .isIn, value := .list candidates }

/-- The test of whether a value is not among some candidates. -/
def outsideSet (clause : Clause) (candidates : List Operand) : Clause :=
  { clause with operator := .notIn, value := .list candidates }

section

variable (clause : Clause)

/-- Each candidate may be compared with the items in turn. -/
theorem holdsOfAny_eq_any_given
    (operator : Operator)
    (held : List FieldValue)
    (given : List Operand) :
    clause.holdsOfAny operator held given =
      given.any fun candidate => held.any fun item =>
        clause.holdsOfItems operator item candidate := by
  rw [Bool.eq_iff_iff, holdsOfAny]
  simp only [List.any_eq_true]
  constructor
  · rintro ⟨item, itemMember, candidate, candidateMember, related⟩
    exact ⟨candidate, candidateMember, item, itemMember, related⟩
  · rintro ⟨candidate, candidateMember, item, itemMember, related⟩
    exact ⟨item, itemMember, candidate, candidateMember, related⟩

theorem decidedBySome_candidates (held : List FieldValue) :
    DecidedBySome fun candidates => clause.holdsOfAny .eq held candidates :=
  .of_any (clause.holdsOfAny_eq_any_given .eq held)

theorem decidedBySome_items (given : List Operand) :
    DecidedBySome fun items => clause.holdsOfAny .eq items given :=
  .of_any fun _ => rfl

theorem accepts_inSet
    (candidates : List Operand)
    {held : FieldValue}
    (present : held.isMissing = false) :
    (clause.inSet candidates).accepts held = clause.holdsOfAny .eq held.items candidates := by
  cases held with
  | missing =>
      cases present
  | scalar | list =>
      rw [← clause.holdsOfAny_update .isIn (.list candidates)]
      rfl

theorem accepts_outsideSet
    (candidates : List Operand)
    {held : FieldValue}
    (present : held.isMissing = false) :
    (clause.outsideSet candidates).accepts held = !clause.holdsOfAny .eq held.items candidates := by
  cases held with
  | missing =>
      cases present
  | scalar | list =>
      rw [← clause.holdsOfAny_update .notIn (.list candidates)]
      rfl

end

/-- A single value is among a single candidate if it equals it. -/
theorem accepts_single_candidate
    (clause : Clause)
    (held given : Scalar) :
    (clause.inSet [.scalar given]).accepts (.scalar held) =
        clause.holdsOfScalars .eq held given ∧
      (clause.outsideSet [.scalar given]).accepts (.scalar held) =
        !clause.holdsOfScalars .eq held given := by
  have isEqual :
      clause.holdsOfAny .eq [.scalar held] [.scalar given] =
        clause.holdsOfScalars .eq held given := by
    simp [holdsOfAny, holdsOfItems]
  rw [accepts_inSet clause _ rfl, accepts_outsideSet clause _ rfl, FieldValue.items, isEqual]
  exact ⟨rfl, rfl⟩

/--
Membership has set semantics. For a present value, the test for membership is decided
by some candidate and the test for its absence by all candidates, where for a single
candidate it is equality that decides. In the same way a set test of a collection,
whatever its operand, is decided by some of the items or by all of them.
-/
theorem accepts_setTests
    (clause : Clause) :
    (∀ held : FieldValue, held.isMissing = false →
      DecidedBySome (fun candidates => (clause.inSet candidates).accepts held) ∧
        DecidedByAll (fun candidates => (clause.outsideSet candidates).accepts held)) ∧
      (∀ held given : Scalar,
        (clause.inSet [.scalar given]).accepts (.scalar held) =
            clause.holdsOfScalars .eq held given ∧
          (clause.outsideSet [.scalar given]).accepts (.scalar held) =
            !clause.holdsOfScalars .eq held given) ∧
      (clause.operator = .isIn → DecidedBySome fun items => clause.accepts (.list items)) ∧
      (clause.operator = .notIn → DecidedByAll fun items => clause.accepts (.list items)) := by
  refine ⟨?_, clause.accepts_single_candidate, ?_, ?_⟩
  · intro held present
    have bySome := clause.decidedBySome_candidates held.items
    constructor
    · simpa only [accepts_inSet clause _ present] using bySome
    · exact bySome.not fun candidates => clause.accepts_outsideSet candidates present
  · intro isIn
    have outcome (items : List FieldValue) :
        clause.accepts (.list items) = clause.holdsOfAny .eq items clause.value.items := by
      rw [accepts, acceptsCollection, isIn]
      rfl
    simpa only [outcome] using clause.decidedBySome_items clause.value.items
  · intro notIn
    refine (clause.decidedBySome_items clause.value.items).not fun items => ?_
    rw [accepts, acceptsCollection, notIn]
    rfl

/-- The search for developers by the languages they know. -/
def byLanguages : Clause where
  path := ⟨[], "languages"⟩
  operator := .notIn
  value := .list [.ofText "Go", .ofText "Rust", .ofText "Go"]
  shape := .collection

/-- A candidate that is repeated counts once, and languages may be looked at one by one. -/
theorem accepts_setTests_byLanguages :
    (Compiler.ofSchema Record.Developer.schema).compile {}
        ⟨"languages", .notIn, .list ["Go", "Rust", "Go"]⟩ = .ok byLanguages ∧
      byLanguages.accepts (.list [.ofText "Lean", .ofText "C"]) =
        (byLanguages.outsideSet [.ofText "Rust", .ofText "Go"]).accepts
          (.list [.ofText "Lean", .ofText "C"]) ∧
      byLanguages.accepts (.list [.ofText "Lean", .ofText "Go"]) =
        (byLanguages.accepts (.list [.ofText "Lean"]) &&
          byLanguages.accepts (.list [.ofText "Go"])) := by
  obtain ⟨candidates, -, -, items⟩ := accepts_setTests byLanguages
  refine ⟨rfl, ?_, (items rfl).append [.ofText "Lean"] [.ofText "Go"]⟩
  refine (candidates (.list [.ofText "Lean", .ofText "C"]) rfl).2.eq_of_mem_iff
    [.ofText "Go", .ofText "Rust", .ofText "Go"] [.ofText "Rust", .ofText "Go"] ?_
  intro item
  simp only [List.mem_cons, List.not_mem_nil, or_false]
  tauto

end Clause

end FieldSearch
