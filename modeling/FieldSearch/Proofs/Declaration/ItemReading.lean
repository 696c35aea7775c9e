import FieldSearch.Proofs.Declaration.StringValue

namespace FieldSearch.Declaration

/-!
# Reading the items of an attribute

An item is a name, a name with a value, or a path with arguments. These lemmas say what
is read of the two forms that may be options: a name before the end of the item, and a
name with a string literal for its value. They also say that nothing else is read as
such an item.
-/

namespace Reading

/-! Names and keywords. -/

theorem eq_of_needName
    {tokens rest : List Token}
    {name : String}
    (reads : needName tokens = .ok (name, rest)) :
    tokens = .atom (.name name) :: rest ∧ name ∉ keywords := by
  rw [needName, get_bind] at reads
  split at reads
  · split at reads
    · cases reads
    · next isOwn =>
      cases reads
      exact ⟨rfl, fun isKeyword => isOwn (List.contains_iff_mem.mpr isKeyword)⟩
  · cases reads

theorem skipKeyword_eq
    (word : String)
    (tokens : List Token) :
    skipKeyword word tokens =
      if startsWithName word tokens then .ok (true, tokens.drop 1) else .ok (false, tokens) := by
  rw [skipKeyword, sees_bind]
  cases startsWithName word tokens <;> rfl

/-! Items between commas. -/

section

variable
  {item : Reading α}
  {first : α}
  {tokens : List Token}
  {fuel : Nat}

theorem separated_last
    (isSome : tokens ≠ [])
    (reads : item tokens = .ok (first, [])) :
    separated item (fuel + 1) tokens = .ok ([first], []) := by
  rw [separated, sees_bind, if_neg (by simpa using isSome), bind_of_ok reads]
  rfl

theorem separated_cons
    (isSome : tokens ≠ [])
    {isJoint : Bool}
    {later rest : List Token}
    (reads : item tokens = .ok (first, .atom (.mark ',' isJoint) :: later))
    {more : List α}
    (readsMore : separated item fuel later = .ok (more, rest)) :
    separated item (fuel + 1) tokens = .ok (first :: more, rest) := by
  have comma : needOperator "," (.atom (.mark ',' isJoint) :: later) = .ok ((), later) := by
    cases isJoint <;> rfl
  rw [separated, sees_bind, if_neg (by simpa using isSome), bind_of_ok reads, sees_bind,
    if_neg (by simp), bind_of_ok comma, bind_of_ok readsMore]
  rfl

theorem cases_of_separated
    {results : List α}
    {rest : List Token}
    (reads : separated item (fuel + 1) tokens = .ok (results, rest)) :
    (tokens = [] ∧ results = [] ∧ rest = []) ∨
      ∃ first between,
        item tokens = .ok (first, between) ∧
          ((between = [] ∧ results = [first] ∧ rest = []) ∨
            ∃ isJoint later more,
              between = .atom (.mark ',' isJoint) :: later ∧
                separated item fuel later = .ok (more, rest) ∧ results = first :: more) := by
  rw [separated, sees_bind] at reads
  split at reads
  · next isEmpty =>
    obtain rfl := List.isEmpty_iff.mp isEmpty
    cases reads
    exact .inl ⟨rfl, rfl, rfl⟩
  · obtain ⟨first, between, readsFirst, readsRest⟩ := bind_eq_ok_iff.mp reads
    rw [sees_bind] at readsRest
    refine .inr ⟨first, between, readsFirst, ?_⟩
    split at readsRest
    · next isEmpty =>
      obtain rfl := List.isEmpty_iff.mp isEmpty
      cases readsRest
      exact .inl ⟨rfl, rfl, rfl⟩
    · obtain ⟨_, later, comma, readsMore⟩ := bind_eq_ok_iff.mp readsRest
      obtain ⟨more, _, separates, ⟨⟩⟩ := bind_eq_ok_iff.mp readsMore
      rw [needOperator] at comma
      obtain ⟨isNext, _, skips, result⟩ := bind_eq_ok_iff.mp comma
      rw [skipOperator_eq] at skips
      split at skips
      · next after found =>
        cases skips
        cases result
        obtain ⟨isJoint, _, rfl, ⟨⟩⟩ := exists_mark_of_afterOperator? found
        exact .inr ⟨isJoint, _, more, rfl, separates, rfl⟩
      · cases skips
        cases result

end

end Reading

namespace Item

open Reading

/-! The values of items. -/

theorem readValue_string
    {rest : List Token}
    (ends : EndsItem rest)
    (value source : String) :
    readValue (.atom (.string value source) :: rest) = .ok (.string value, rest) := by
  obtain ⟨fuel, isEnough⟩ :
      ∃ fuel, 16 * (Token.sizes (.atom (.string value source) :: rest) + 1) = fuel + 3 :=
    ⟨16 * Token.sizes (.atom (.string value source) :: rest) + 13, by omega⟩
  have reads := expression_string ends true fuel value source
  rw [← isEnough] at reads
  change (expression true _ >>= fun form => pure form.value) _ = _
  rw [bind_of_ok reads]
  rfl

theorem eq_of_readValue
    {tokens rest : List Token}
    {value : String}
    (reads : readValue tokens = .ok (.string value, rest)) :
    ∃ source, tokens = .atom (.string value source) :: rest := by
  rw [readValue, get_bind] at reads
  split at reads
  · cases reads
  · next plain =>
    obtain ⟨form, after, readsForm, isValue⟩ := bind_eq_ok_iff.mp reads
    cases form with
    | string found =>
        cases isValue
        exact eq_of_expression (Bool.eq_false_iff.mpr plain) readsForm
    | range | comparison | other =>
        cases isValue

/-! The names that items start with. -/

/-- The name may be a part of a path. -/
def IsPart (name : String) : Prop :=
  name ∉ keywords ∨ name ∈ pathKeywords

theorem isPart_iff
    {name : String} :
    IsPart name ↔ ¬ (keywords.contains name && !pathKeywords.contains name) = true := by
  simp [IsPart, Decidable.imp_iff_not_or]

theorem readParts_name
    {name : String}
    (isPart : IsPart name)
    {rest : List Token}
    (ends : afterOperator? "::".toList rest = none)
    (fuel : Nat) :
    readParts (fuel + 1) (.atom (.name name) :: rest) = .ok ([name], rest) := by
  have skipsNone : skipOperator "::" rest = .ok (false, rest) := by
    rw [skipOperator_eq, ends]
  rw [readParts, get_bind]
  dsimp only
  rw [if_neg (isPart_iff.mp isPart), set_bind, bind_of_ok skipsNone]
  rfl

/-- What parts of a path are taken from tokens, with the tokens that are left. -/
inductive TakesParts : List Token → List String → List Token → Prop where
  | none
      {tokens : List Token} :
      (∀ name later, tokens = .atom (.name name) :: later → ¬ IsPart name) →
      TakesParts tokens [] tokens
  | single
      {name : String}
      {rest : List Token} :
      IsPart name →
      TakesParts (.atom (.name name) :: rest) [name] rest
  | several
      {tokens rest : List Token}
      {first second : String}
      {more : List String} :
      TakesParts tokens (first :: second :: more) rest

/-- There are never more parts than tokens, so that the bound on their number is no limit. -/
theorem takesParts_of_readParts
    {fuel : Nat}
    {tokens rest : List Token}
    {parts : List String}
    (isEnough : tokens.length ≤ fuel)
    (reads : readParts fuel tokens = .ok (parts, rest)) :
    TakesParts tokens parts rest := by
  cases fuel with
  | zero =>
      obtain rfl := List.eq_nil_of_length_eq_zero (Nat.eq_zero_of_le_zero isEnough)
      rw [readParts] at reads
      cases reads
      exact .none (by simp)
  | succ fuel =>
      rw [readParts, get_bind] at reads
      split at reads
      · next name after =>
        split at reads
        · next isExcluded =>
          cases reads
          refine .none ?_
          rintro _ _ ⟨⟩
          exact fun isPart => isPart_iff.mp isPart isExcluded
        · next isPart =>
          rw [set_bind] at reads
          obtain ⟨isFollowed, afterMarks, skips, later⟩ := bind_eq_ok_iff.mp reads
          rw [skipOperator_eq] at skips
          split at skips
          · cases skips
            obtain ⟨more, _, -, later⟩ := bind_eq_ok_iff.mp later
            cases more <;> cases later
            exact .several
          · cases skips
            cases later
            exact .single (isPart_iff.mpr isPart)
      · next notName =>
        cases reads
        exact .none fun name later same => absurd same (notName name later)

theorem readPath_name
    {name : String}
    (isOwn : name ∉ keywords)
    {rest : List Token}
    (ends : afterOperator? "::".toList rest = none) :
    readPath (.atom (.name name) :: rest) = .ok (.single name, rest) := by
  have notUnsafe : ¬ startsWithName "unsafe" (.atom (.name name) :: rest) = true := by
    intro isNext
    obtain rfl : name = "unsafe" := eq_of_beq isNext
    exact isOwn (by decide)
  have skipsNone :
      skipKeyword "unsafe" (.atom (.name name) :: rest) =
        .ok (false, .atom (.name name) :: rest) := by
    rw [skipKeyword_eq, if_neg notUnsafe]
  have notRooted :
      skipOperator "::" (.atom (.name name) :: rest) =
        .ok (false, .atom (.name name) :: rest) := rfl
  have takes := readParts_name (.inl isOwn) ends rest.length
  rw [readPath, bind_of_ok skipsNone]
  change (skipOperator "::" >>= _) (.atom (.name name) :: rest) = _
  rw [bind_of_ok notRooted, get_bind]
  change (readParts (rest.length + 1) >>= _) (.atom (.name name) :: rest) = _
  rw [bind_of_ok takes]
  rfl

theorem eq_of_readPath
    {tokens rest : List Token}
    {name : String}
    (reads : readPath tokens = .ok (.single name, rest)) :
    tokens = .atom (.name name) :: rest ∧ (IsPart name ∨ name = "unsafe") := by
  rw [readPath] at reads
  obtain ⟨isUnsafe, between, skips, later⟩ := bind_eq_ok_iff.mp reads
  rw [skipKeyword_eq] at skips
  split at skips
  · next isNext =>
    cases skips
    cases later
    match tokens, isNext with
    | .atom (.name found) :: rest, isNext =>
        obtain rfl : found = "unsafe" := eq_of_beq isNext
        exact ⟨rfl, .inr rfl⟩
  · cases skips
    obtain ⟨isRooted, start, roots, readsRest⟩ := bind_eq_ok_iff.mp later
    rw [get_bind] at readsRest
    obtain ⟨parts, after, readsParts, result⟩ := bind_eq_ok_iff.mp readsRest
    have takes := takesParts_of_readParts Nat.le.refl readsParts
    cases takes with
    | none notPart =>
        -- A name that could be read now would have been a part of the path.
        have readsName :
            (needName >>= fun found => pure (.single found)) start =
              .ok (ItemPath.single name, rest) := by
          cases isRooted <;> exact result
        obtain ⟨found, _, needs, ⟨⟩⟩ := bind_eq_ok_iff.mp readsName
        obtain ⟨rfl, isOwn⟩ := eq_of_needName needs
        exact absurd (.inl isOwn) (notPart _ _ rfl)
    | single isPart =>
        rw [skipOperator_eq] at roots
        split at roots
        · cases roots
          cases result
        · cases roots
          cases result
          exact ⟨rfl, .inl isPart⟩
    | several =>
        cases isRooted <;> cases result

/-! Items of the two forms that may be options. -/

theorem read_name
    {name : String}
    (isOwn : name ∉ keywords)
    {rest : List Token}
    (ends : EndsItem rest) :
    read (.atom (.name name) :: rest) = .ok (.path (.single name), rest) := by
  have noMarks : afterOperator? "::".toList rest = none := by
    cases ends <;> rfl
  rw [read, bind_of_ok (readPath_name isOwn noMarks), get_bind]
  cases ends <;> rfl

theorem read_assignment
    {name : String}
    (isOwn : name ∉ keywords)
    {rest : List Token}
    (ends : EndsItem rest)
    (isJoint : Bool)
    (value source : String) :
    read
        (.atom (.name name) :: .atom (.mark '=' isJoint) :: .atom (.string value source) :: rest) =
      .ok (.assignment (.single name) (.string value), rest) := by
  rw [read, bind_of_ok (readPath_name isOwn rfl), get_bind]
  have assigns :
      (readValue >>= fun result => pure (Item.assignment (.single name) result))
          (.atom (.string value source) :: rest) =
        .ok (.assignment (.single name) (.string value), rest) := by
    rw [bind_of_ok (readValue_string ends value source)]
    rfl
  cases isJoint <;> exact assigns

theorem eq_of_read_path
    {tokens rest : List Token}
    {name : String}
    (reads : read tokens = .ok (.path (.single name), rest)) :
    tokens = .atom (.name name) :: rest ∧ (IsPart name ∨ name = "unsafe") := by
  rw [read] at reads
  obtain ⟨start, between, readsPath, later⟩ := bind_eq_ok_iff.mp reads
  rw [get_bind] at later
  split at later
  · cases later
  · split at later
    · obtain ⟨_, _, -, result⟩ := bind_eq_ok_iff.mp later
      obtain ⟨_, _, -, ⟨⟩⟩ := bind_eq_ok_iff.mp result
    · cases later
      exact eq_of_readPath readsPath

theorem eq_of_read_assignment
    {tokens rest : List Token}
    {name value : String}
    (reads : read tokens = .ok (.assignment (.single name) (.string value), rest)) :
    ∃ isJoint source,
      tokens = .atom (.name name) :: .atom (.mark '=' isJoint) ::
        .atom (.string value source) :: rest := by
  rw [read] at reads
  obtain ⟨start, between, readsPath, later⟩ := bind_eq_ok_iff.mp reads
  rw [get_bind] at later
  split at later
  · cases later
  · split at later
    · next isAssignment =>
      rw [skip_bind] at later
      obtain ⟨_, _, readsValue, ⟨⟩⟩ := bind_eq_ok_iff.mp later
      obtain ⟨rfl, -⟩ := eq_of_readPath readsPath
      obtain ⟨source, same⟩ := eq_of_readValue readsValue
      have startsEqual : startsWith "=" between = true := by
        simp only [Bool.and_eq_true] at isAssignment
        exact isAssignment.1.1
      obtain ⟨_, found⟩ := Option.isSome_iff_exists.mp startsEqual
      obtain ⟨isJoint, after, rfl, -⟩ := exists_mark_of_afterOperator? found
      obtain rfl : after = _ := same
      exact ⟨isJoint, source, rfl⟩
    · cases later

theorem listOf_eq_ok_iff
    {tokens : List Token}
    {items : List Item} :
    listOf tokens = .ok items ↔
      ∃ rest, separated read tokens.length tokens = .ok (items, rest) := by
  rw [listOf, Outcomes.mapError_eq_ok]
  change Except.map _ (separated read tokens.length tokens) = _ ↔ _
  rw [Outcomes.map_eq_ok]
  constructor
  · rintro ⟨⟨_, rest⟩, reads, rfl⟩
    exact ⟨rest, reads⟩
  · rintro ⟨rest, reads⟩
    exact ⟨(items, rest), reads, rfl⟩

end Item

end FieldSearch.Declaration
