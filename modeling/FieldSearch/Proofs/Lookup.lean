import Mathlib.Data.List.Forall2

namespace FieldSearch.Lookup

/-!
# First matches

What a name stands for is the first match in a list. Where at most one item
matches, that is the match wherever it stands, so the order of the list does not
matter.
-/

/-- The only match is found. -/
theorem find?_eq_some_of_unique
    {test : α → Bool}
    {items : List α}
    {item : α}
    (member : item ∈ items)
    (isMatch : test item = true)
    (unique : ∀ other ∈ items, test other = true → other = item) :
    items.find? test = some item := by
  have isSome : (items.find? test).isSome = true :=
    List.find?_isSome.mpr ⟨item, member, isMatch⟩
  obtain ⟨found, isFound⟩ := Option.isSome_iff_exists.mp isSome
  have isItem := unique found (List.mem_of_find?_eq_some isFound) (List.find?_some isFound)
  rw [isFound, isItem]

/-- In two orders of a list the same is found if no two items match. -/
theorem find?_eq_of_perm
    {test : α → Bool}
    {left right : List α}
    (reordered : left.Perm right)
    (unique :
      ∀ first ∈ left, ∀ second ∈ left, test first = true → test second = true →
        first = second) :
    left.find? test = right.find? test := by
  cases found : left.find? test with
  | none =>
      rw [List.find?_eq_none] at found
      rw [eq_comm, List.find?_eq_none]
      intro item member
      exact found item (reordered.mem_iff.mpr member)
  | some item =>
      have member := List.mem_of_find?_eq_some found
      have isMatch := List.find?_some found
      rw [eq_comm]
      refine find?_eq_some_of_unique (reordered.mem_iff.mp member) isMatch ?_
      intro other otherMember otherMatch
      exact unique other (reordered.mem_iff.mpr otherMember) item member otherMatch isMatch

/-- In lists that are related item by item, related items are found. -/
theorem rel_find?_of_forall₂
    {related : α → β → Prop}
    {test : α → Bool}
    {otherTest : β → Bool}
    (sameTest : ∀ item other, related item other → test item = otherTest other)
    {items : List α}
    {others : List β}
    (itemwise : List.Forall₂ related items others) :
    Option.Rel related (items.find? test) (others.find? otherTest) := by
  induction itemwise with
  | nil =>
      exact .none
  | cons first rest inductionHypothesis =>
      rw [List.find?_cons, List.find?_cons, sameTest _ _ first]
      split
      · exact .some first
      · exact inductionHypothesis

/-- A matching item is the first match just if nothing before it matches. -/
theorem findIdx?_append_cons_eq_some_iff
    {test : α → Bool}
    {before after : List α}
    {item : α}
    (isMatch : test item = true) :
    (before ++ item :: after).findIdx? test = some before.length ↔
      ∀ earlier ∈ before, test earlier = false := by
  rw [List.findIdx?_append]
  cases found : before.findIdx? test with
  | none =>
      have noneBefore := List.findIdx?_eq_none_iff.mp found
      simpa [List.findIdx?_cons, isMatch] using noneBefore
  | some index =>
      obtain ⟨isBefore, matchBefore, -⟩ := List.findIdx?_eq_some_iff_getElem.mp found
      constructor
      · intro isFirst
        obtain rfl : index = before.length := by simpa using isFirst
        exact absurd isBefore (Nat.lt_irrefl _)
      · intro noneBefore
        rw [noneBefore _ (List.getElem_mem isBefore)] at matchBefore
        cases matchBefore

end FieldSearch.Lookup
