import FieldSearch.Compiler
import FieldSearch.Proofs.Clause.Comparison
import FieldSearch.Record.Developer

namespace FieldSearch

/-!
# Membership tests and nested values

The value of a path through a collection of records is a list, and a list of lists
if the field it ends with is a collection in turn. A membership test compares the
items of a value with the members of its set, and an item that is a list equals none
of them. So the leaves of a value decide the test as long as one of those that equal
a member, if there is any, is among the items.
-/

namespace FieldValue

mutual

/-- The scalars in a value, at any depth. -/
def leaves : FieldValue → List Scalar
  | missing => []
  | scalar value => [value]
  | list items => leavesOf items

/-- The scalars in values, at any depth. -/
def leavesOf : List FieldValue → List Scalar
  | [] => []
  | item :: rest => leaves item ++ leavesOf rest

end

theorem leavesOf_eq_flatMap (items : List FieldValue) :
    leavesOf items = items.flatMap leaves := by
  induction items with
  | nil =>
      rfl
  | cons item rest inductionHypothesis =>
      rw [leavesOf, inductionHypothesis, List.flatMap_cons]

/-- The leaves of a list are those of its items. -/
theorem mem_leaves_list
    {leaf : Scalar}
    {items : List FieldValue} :
    leaf ∈ (list items).leaves ↔ ∃ item ∈ items, leaf ∈ item.leaves := by
  rw [leaves, leavesOf_eq_flatMap, List.mem_flatMap]

/-- A leaf of a value that is no list is the value itself. -/
theorem eq_scalar_of_mem_leaves
    {leaf : Scalar}
    {held : FieldValue}
    (notList : held.isList = false)
    (isLeaf : leaf ∈ held.leaves) :
    held = scalar leaf := by
  cases held with
  | missing =>
      cases isLeaf
  | scalar value =>
      rw [leaves, List.mem_singleton] at isLeaf
      rw [isLeaf]
  | list items =>
      cases notList

end FieldValue

namespace Clause

/-- A scalar equals a member of the clause's set, in the clause's letter case. -/
def HasMember (clause : Clause) (leaf : Scalar) : Prop :=
  ∃ member, .scalar member ∈ clause.value.items ∧ clause.holdsOfScalars .eq leaf member = true

/-- Some leaf of a value equals a member. -/
def MeetsLeaf (clause : Clause) (held : FieldValue) : Prop :=
  ∃ leaf ∈ held.leaves, clause.HasMember leaf

/-- Some item, which is no list then, equals a member. -/
def MeetsItem (clause : Clause) (items : List FieldValue) : Prop :=
  ∃ leaf, .scalar leaf ∈ items ∧ clause.HasMember leaf

/-- A membership test holds of a value just as its leaves say. -/
structure DecidedByLeaves (clause : Clause) (held : FieldValue) : Prop where
  of_isIn : clause.operator = .isIn → (clause.accepts held = true ↔ clause.MeetsLeaf held)
  of_notIn : clause.operator = .notIn → (clause.accepts held = true ↔ ¬ clause.MeetsLeaf held)

section

variable
  {clause : Clause}
  {items : List FieldValue}

/-- To compare all items with all members is to look for an item that equals one. -/
theorem holdsOfAny_eq_iff_meetsItem :
    clause.holdsOfAny .eq items clause.value.items = true ↔ clause.MeetsItem items :=
  holdsOfAny_iff

theorem accepts_list_of_isIn (isIn : clause.operator = .isIn) :
    clause.accepts (.list items) = true ↔ clause.MeetsItem items := by
  rw [accepts, acceptsCollection, isIn]
  exact holdsOfAny_eq_iff_meetsItem

theorem accepts_list_of_notIn (notIn : clause.operator = .notIn) :
    clause.accepts (.list items) = true ↔ ¬ clause.MeetsItem items := by
  rw [← holdsOfAny_eq_iff_meetsItem, accepts, acceptsCollection, notIn]
  simp [Operator.normalize]

theorem MeetsItem.meetsLeaf (meets : clause.MeetsItem items) :
    clause.MeetsLeaf (.list items) := by
  obtain ⟨leaf, itemMember, hasMember⟩ := meets
  have isLeaf : leaf ∈ (FieldValue.list items).leaves :=
    FieldValue.mem_leaves_list.mpr ⟨.scalar leaf, itemMember, by simp [FieldValue.leaves]⟩
  exact ⟨leaf, isLeaf, hasMember⟩

/-- Where no item is a list, the items are the leaves. -/
theorem MeetsLeaf.meetsItem
    (flat : ∀ item ∈ items, item.isList = false)
    (meets : clause.MeetsLeaf (.list items)) :
    clause.MeetsItem items := by
  obtain ⟨leaf, isLeaf, hasMember⟩ := meets
  obtain ⟨item, itemMember, leafOfItem⟩ := FieldValue.mem_leaves_list.mp isLeaf
  obtain rfl := FieldValue.eq_scalar_of_mem_leaves (flat item itemMember) leafOfItem
  exact ⟨leaf, itemMember, hasMember⟩

end

/--
Membership in a collection is decided by the leaves of its value if no item is a
list. If there are lists among the items, it still is exactly if one of the leaves
that equal a member is an item itself, unless there are none. If all of them are
inside of lists, the test for membership fails and the test for its absence holds.
-/
theorem decidedByLeaves_iff
    (clause : Clause)
    (setTest : clause.operator.IsSetTest)
    (items : List FieldValue) :
    ((∀ item ∈ items, item.isList = false) → clause.DecidedByLeaves (.list items)) ∧
      (clause.DecidedByLeaves (.list items) ↔
        (clause.MeetsLeaf (.list items) → clause.MeetsItem items)) ∧
      (clause.MeetsLeaf (.list items) →
        ¬ clause.MeetsItem items →
          (clause.accepts (.list items) = true ↔ clause.operator = .notIn)) := by
  have decides :
      (clause.MeetsLeaf (.list items) → clause.MeetsItem items) →
        clause.DecidedByLeaves (.list items) := by
    intro shown
    have sameMeeting : clause.MeetsItem items ↔ clause.MeetsLeaf (.list items) :=
      ⟨MeetsItem.meetsLeaf, shown⟩
    constructor
    · intro isIn
      rw [accepts_list_of_isIn isIn, sameMeeting]
    · intro notIn
      rw [accepts_list_of_notIn notIn, sameMeeting]
  refine ⟨fun flat => decides (MeetsLeaf.meetsItem flat), ⟨?_, decides⟩, ?_⟩
  · intro decided meetsLeaf
    rcases setTest with isIn | notIn
    · exact (accepts_list_of_isIn isIn).mp ((decided.of_isIn isIn).mpr meetsLeaf)
    · by_contra hidden
      exact (decided.of_notIn notIn).mp ((accepts_list_of_notIn notIn).mpr hidden) meetsLeaf
  · intro _ hidden
    rcases setTest with isIn | notIn
    · simp [accepts_list_of_isIn isIn, hidden, isIn]
    · simp [accepts_list_of_notIn notIn, hidden, notIn]

/-- The lines of a developer's offices, which are two collections deep. -/
def officeLines : FieldValue :=
  Record.Developer.valueAt { offices := [{ lines := ["Main Street"] }] } ["offices", "lines"]

/-- The search for developers none of whose offices has a line. -/
def noMainStreet : Clause where
  path := ⟨["offices"], "lines"⟩
  operator := .notIn
  value := .list [.ofText "Main Street"]
  shape := .collection

/-- An office in Main Street is found by the search for those that are not there. -/
theorem decidedByLeaves_iff_officeLines :
    (Compiler.ofSchema Record.Developer.schema).compile {}
        ⟨"offices.lines", .notIn, .list ["Main Street"]⟩ = .ok noMainStreet ∧
      officeLines = .list [.list [.ofText "Main Street"]] ∧
        noMainStreet.MeetsLeaf officeLines ∧
          ¬ noMainStreet.DecidedByLeaves officeLines ∧
            noMainStreet.accepts officeLines = true := by
  have meetsLeaf : noMainStreet.MeetsLeaf officeLines :=
    ⟨.text "Main Street", .head _, .text "Main Street", .head _, rfl⟩
  have hidden : ¬ noMainStreet.MeetsItem [.list [.ofText "Main Street"]] := by
    rintro ⟨leaf, itemMember, -⟩
    rw [List.mem_singleton] at itemMember
    cases itemMember
  obtain ⟨-, decided, reversed⟩ :=
    decidedByLeaves_iff noMainStreet (.inr rfl) [.list [.ofText "Main Street"]]
  refine ⟨rfl, rfl, meetsLeaf, ?_, (reversed meetsLeaf hidden).mpr rfl⟩
  intro decidedByLeaves
  exact hidden (decided.mp decidedByLeaves meetsLeaf)

end Clause

end FieldSearch
