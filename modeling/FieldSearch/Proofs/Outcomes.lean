namespace FieldSearch.Outcomes

/-!
# Sequenced outcomes

Every step of a compilation may fail. These lemmas take a sequence of steps
apart: a sequence succeeds if all of its steps do, and it fails with the error
of the first step that does not.
-/

/-- A sequence succeeds exactly if both of its steps do. -/
theorem bind_eq_ok
    {first : Except ε α}
    {later : α → Except ε β}
    {result : β} :
    first >>= later = .ok result ↔
      ∃ middle, first = .ok middle ∧ later middle = .ok result := by
  cases first <;> simp [bind, Except.bind]

/-- A sequence fails with the error of its first step, or else of its second. -/
theorem bind_eq_error
    {first : Except ε α}
    {later : α → Except ε β}
    {failure : ε} :
    first >>= later = .error failure ↔
      first = .error failure ∨
        ∃ middle, first = .ok middle ∧ later middle = .error failure := by
  cases first <;> simp [bind, Except.bind]

theorem map_eq_ok
    {outcome : Except ε α}
    {change : α → β}
    {result : β} :
    outcome.map change = .ok result ↔
      ∃ original, outcome = .ok original ∧ change original = result := by
  cases outcome <;> simp [Except.map]

theorem map_eq_error
    {outcome : Except ε α}
    {change : α → β}
    {failure : ε} :
    outcome.map change = .error failure ↔ outcome = .error failure := by
  cases outcome <;> simp [Except.map]

theorem mapError_eq_ok
    {outcome : Except ε α}
    {change : ε → ε'}
    {result : α} :
    outcome.mapError change = .ok result ↔ outcome = .ok result := by
  cases outcome with
  | error failure =>
      constructor <;> rintro ⟨⟩
  | ok original =>
      constructor <;>
        · rintro ⟨⟩
          rfl

theorem mapError_eq_error
    {outcome : Except ε α}
    {change : ε → ε'}
    {failure : ε'} :
    outcome.mapError change = .error failure ↔
      ∃ original, outcome = .error original ∧ change original = failure := by
  cases outcome with
  | error original =>
      constructor
      · rintro ⟨⟩
        exact ⟨original, rfl, rfl⟩
      · rintro ⟨_, ⟨⟩, rfl⟩
        rfl
  | ok result =>
      constructor
      · rintro ⟨⟩
      · rintro ⟨_, ⟨⟩, _⟩

/-- Steps taken in order succeed if the first one does and the later ones do. -/
theorem mapM_cons_eq_ok_iff
    {step : α → Except ε β}
    {first : α}
    {rest : List α}
    {results : List β} :
    (first :: rest).mapM step = .ok results ↔
      ∃ result more, step first = .ok result ∧ rest.mapM step = .ok more ∧
        results = result :: more := by
  rw [List.mapM_cons, bind_eq_ok]
  constructor
  · rintro ⟨result, taken, later⟩
    obtain ⟨more, takenMore, ⟨⟩⟩ := bind_eq_ok.mp later
    exact ⟨result, more, taken, takenMore, rfl⟩
  · rintro ⟨result, more, taken, takenMore, rfl⟩
    exact ⟨result, taken, bind_eq_ok.mpr ⟨more, takenMore, rfl⟩⟩

/-- The results of steps taken in order are those of the items, and no others. -/
theorem mem_iff_of_mapM_eq_ok
    {step : α → Except ε β}
    {items : List α}
    {results : List β}
    (taken : items.mapM step = .ok results)
    {result : β} :
    result ∈ results ↔ ∃ item ∈ items, step item = .ok result := by
  induction items generalizing results with
  | nil =>
      cases taken
      simp
  | cons first rest inductionHypothesis =>
      obtain ⟨head, tail, headTaken, tailTaken, rfl⟩ := mapM_cons_eq_ok_iff.mp taken
      rw [List.mem_cons, inductionHypothesis tailTaken]
      simp [headTaken, eq_comm]

/-- The first of the items on which a step fails, fails with an error. -/
def FailsFirst (step : α → Except ε β) (items : List α) (failure : ε) : Prop :=
  ∃ earlier item later,
    items = earlier ++ item :: later ∧
      (∀ other ∈ earlier, ∃ result, step other = .ok result) ∧
        step item = .error failure

section FailsFirst

variable
  {step : α → Except ε β}
  {item : α}
  {items : List α}
  {failure : ε}

theorem not_failsFirst_nil : ¬ FailsFirst step [] failure := by
  rintro ⟨earlier, item, later, split, -⟩
  simp at split

/-- An item on which the step succeeds is passed over. -/
theorem failsFirst_cons_of_ok
    {result : β}
    (taken : step item = .ok result) :
    FailsFirst step (item :: items) failure ↔ FailsFirst step items failure := by
  constructor
  · rintro ⟨earlier, failing, later, split, takenEarlier, failed⟩
    cases earlier with
    | nil =>
        obtain ⟨rfl, -⟩ := List.cons.inj split
        rw [taken] at failed
        cases failed
    | cons first earlier =>
        obtain ⟨-, rfl⟩ := List.cons.inj split
        rw [List.forall_mem_cons] at takenEarlier
        exact ⟨earlier, failing, later, rfl, takenEarlier.2, failed⟩
  · rintro ⟨earlier, failing, later, rfl, takenEarlier, failed⟩
    refine ⟨item :: earlier, failing, later, rfl, ?_, failed⟩
    rw [List.forall_mem_cons]
    exact ⟨⟨result, taken⟩, takenEarlier⟩

/-- An item on which the step fails is the first one itself. -/
theorem failsFirst_cons_of_error
    {own : ε}
    (failedOwn : step item = .error own) :
    FailsFirst step (item :: items) failure ↔ own = failure := by
  constructor
  · rintro ⟨earlier, failing, later, split, takenEarlier, failed⟩
    cases earlier with
    | nil =>
        obtain ⟨rfl, -⟩ := List.cons.inj split
        rw [failedOwn] at failed
        exact Except.error.inj failed
    | cons first earlier =>
        obtain ⟨rfl, -⟩ := List.cons.inj split
        obtain ⟨result, taken⟩ := takenEarlier item List.mem_cons_self
        rw [failedOwn] at taken
        cases taken
  · rintro rfl
    exact ⟨[], item, items, rfl, by simp, failedOwn⟩

/-- Where a step fails on some item, there is a first one on which it fails. -/
theorem exists_failsFirst_of_mem
    (member : item ∈ items)
    (failed : step item = .error failure) :
    ∃ own, FailsFirst step items own := by
  induction items with
  | nil =>
      cases member
  | cons first rest inductionHypothesis =>
      cases outcome : step first with
      | error own =>
          exact ⟨own, (failsFirst_cons_of_error outcome).mpr rfl⟩
      | ok result =>
          rcases List.mem_cons.mp member with rfl | inRest
          · rw [failed] at outcome
            cases outcome
          · obtain ⟨own, failsFirst⟩ := inductionHypothesis inRest
            exact ⟨own, (failsFirst_cons_of_ok outcome).mpr failsFirst⟩

/-- Steps taken in order fail with the error of the first one that fails. -/
theorem mapM_eq_error_iff :
    items.mapM step = .error failure ↔ FailsFirst step items failure := by
  induction items with
  | nil =>
      constructor
      · rintro ⟨⟩
      · intro failsFirst
        exact absurd failsFirst not_failsFirst_nil
  | cons first rest inductionHypothesis =>
      rw [List.mapM_cons, bind_eq_error]
      cases outcome : step first with
      | error own =>
          rw [failsFirst_cons_of_error outcome]
          simp
      | ok result =>
          rw [failsFirst_cons_of_ok outcome, ← inductionHypothesis]
          cases rest.mapM step <;> simp [bind, Except.bind, pure, Except.pure]

end FailsFirst

/-- Two outcomes agree if they are the same error or results that are related. -/
inductive Agree (related : α → β → Prop) : Except ε α → Except ε β → Prop where
  | error (failure : ε) :
      Agree related (.error failure) (.error failure)
  | ok
      {result : α}
      {other : β} :
      related result other →
      Agree related (.ok result) (.ok other)

namespace Agree

/-- Sequences agree if their first steps do, and on related results their later ones. -/
theorem bind
    {related : α → β → Prop}
    {laterRelated : α' → β' → Prop}
    {first : Except ε α}
    {otherFirst : Except ε β}
    (agree : Agree related first otherFirst)
    {later : α → Except ε α'}
    {otherLater : β → Except ε β'}
    (laterAgree :
      ∀ result other, related result other →
        Agree laterRelated (later result) (otherLater other)) :
    Agree laterRelated (first >>= later) (otherFirst >>= otherLater) := by
  cases agree with
  | error failure =>
      exact .error failure
  | ok isRelated =>
      exact laterAgree _ _ isRelated

theorem eq
    {outcome other : Except ε α}
    (agree : Agree Eq outcome other) :
    outcome = other := by
  cases agree with
  | error failure =>
      rfl
  | ok same =>
      rw [same]

theorem of_eq
    {outcome other : Except ε α}
    (same : outcome = other) :
    Agree Eq outcome other := by
  cases outcome with
  | error failure =>
      rw [← same]
      exact .error failure
  | ok result =>
      rw [← same]
      exact .ok rfl

end Agree

end FieldSearch.Outcomes
