import FieldSearch.Proofs.Declaration.Exclusion
import FieldSearch.Proofs.Declaration.ItemReading

namespace FieldSearch.Declaration

/-!
# How options are written

The arguments of a search attribute are a list of options separated by commas, of
which one more may follow the last option. `SearchOption.Written` says how each option
is written, and `SearchOptions.Listed` how a list of them is. Arguments are read as a
list of valid options exactly if they are one in this sense
(`SearchOptions.listed_eq_ok_iff`): the reader of items accepts nothing else that
stands for an option.
-/

namespace SearchKind

theorem mem_all (kind : SearchKind) : kind ∈ all := by
  cases kind <;> decide

/-- No name stands for two kinds. -/
theorem eq_of_mem_names
    {kind other : SearchKind}
    {name : String}
    (isName : name ∈ kind.names)
    (isOtherName : name ∈ other.names) :
    kind = other := by
  have disjoint :
      ∀ kind ∈ all, ∀ other ∈ all, ∀ name ∈ kind.names, name ∈ other.names → kind = other := by
    decide
  exact disjoint kind (mem_all kind) other (mem_all other) name isName isOtherName

theorem mem_names_of_ofName?
    {kind : SearchKind}
    {name : String}
    (found : ofName? name = some kind) :
    name ∈ kind.names := by
  unfold ofName? at found
  have holds := List.find?_some found
  exact List.contains_iff_mem.mp holds

theorem ofName?_eq_some_iff
    {kind : SearchKind}
    {name : String} :
    ofName? name = some kind ↔ name ∈ kind.names := by
  refine ⟨mem_names_of_ofName?, ?_⟩
  intro isName
  cases found : ofName? name with
  | none =>
      have absent := List.find?_eq_none.mp found kind (mem_all kind)
      exact absurd (List.contains_iff_mem.mpr isName) absent
  | some other =>
      rw [eq_of_mem_names isName (mem_names_of_ofName? found)]

end SearchKind

namespace SearchOption

/--
An option is written as certain tokens. A kind is named by itself, unless its name is a
keyword, or as a type, where no name is excepted.
-/
inductive Written : SearchOption → List Token → Prop where
  | skip :
      Written .skip [.atom (.name "skip")]
  | caseSensitive :
      Written (.caseSensitive true) [.atom (.name "case_sensitive")]
  | caseInsensitive :
      Written (.caseSensitive false) [.atom (.name "case_insensitive")]
  | kind
      {kind : SearchKind}
      {name : String} :
      name ∈ kind.names →
      name ∉ keywords →
      Written (.kind kind) [.atom (.name name)]
  | type
      {kind : SearchKind}
      {name : String}
      (source : String)
      (isJoint : Bool) :
      name ∈ kind.names →
      Written (.kind kind)
        [.atom (.name "ty"), .atom (.mark '=' isJoint), .atom (.string name source)]
  | rename
      (name source : String)
      (isJoint : Bool) :
      Written (.rename name)
        [.atom (.name "rename"), .atom (.mark '=' isJoint), .atom (.string name source)]

end SearchOption

/-- Options are listed by tokens, with a comma after each but maybe the last. -/
inductive SearchOptions.Listed : List SearchOption → List Token → Prop where
  | none :
      Listed [] []
  | last
      {option : SearchOption}
      {tokens : List Token} :
      option.Written tokens →
      Listed [option] tokens
  | cons
      {option : SearchOption}
      {tokens : List Token}
      (isJoint : Bool)
      {options : List SearchOption}
      {rest : List Token} :
      option.Written tokens →
      Listed options rest →
      Listed (option :: options) (tokens ++ .atom (.mark ',' isJoint) :: rest)

namespace SearchOption

theorem ofKindName_eq_ok_iff
    {name : String}
    {option : SearchOption} :
    ofKindName name = .ok option ↔
      ∃ found : SearchKind, name ∈ found.names ∧ option = kind found := by
  unfold ofKindName
  split
  · next found isFound =>
    have isName := SearchKind.mem_names_of_ofName? isFound
    constructor
    · rintro ⟨⟩
      exact ⟨found, isName, rfl⟩
    · rintro ⟨other, isOtherName, rfl⟩
      rw [SearchKind.eq_of_mem_names isName isOtherName]
  · next unknown =>
    constructor
    · rintro ⟨⟩
    · rintro ⟨other, isOtherName, -⟩
      rw [SearchKind.ofName?_eq_some_iff.mpr isOtherName] at unknown
      cases unknown

theorem stringValue_eq_ok_iff
    {option name : String}
    {value : ItemValue} :
    stringValue option value = .ok name ↔ value = .string name := by
  cases value <;> simp [stringValue]

/-- The name of a kind is no keyword where it is read as a path. -/
theorem not_mem_keywords_of_mem_names
    {kind : SearchKind}
    {name : String}
    (isName : name ∈ kind.names)
    (mayBegin : Item.IsPart name ∨ name = "unsafe") :
    name ∉ keywords := by
  have excluded :
      ∀ kind ∈ SearchKind.all, ∀ name ∈ kind.names, name ∉ pathKeywords ∧ name ≠ "unsafe" := by
    decide
  obtain ⟨notPart, notUnsafe⟩ := excluded kind (SearchKind.mem_all kind) name isName
  rcases mayBegin with (isOwn | isPathKeyword) | isUnsafe
  · exact isOwn
  · exact absurd isPathKeyword notPart
  · exact absurd isUnsafe notUnsafe

/-- What is read as an item that stands for an option is that option as it is written. -/
theorem exists_written_of_read
    {tokens rest : List Token}
    {item : Item}
    {option : SearchOption}
    (reads : Item.read tokens = .ok (item, rest))
    (isOption : ofItem item = .ok option) :
    ∃ own, tokens = own ++ rest ∧ option.Written own := by
  unfold ofItem at isOption
  split at isOption
  · cases isOption
    exact ⟨_, (Item.eq_of_read_path reads).1, .skip⟩
  · cases isOption
    exact ⟨_, (Item.eq_of_read_path reads).1, .caseInsensitive⟩
  · cases isOption
    exact ⟨_, (Item.eq_of_read_path reads).1, .caseSensitive⟩
  · obtain ⟨found, isName, rfl⟩ := ofKindName_eq_ok_iff.mp isOption
    obtain ⟨rfl, mayBegin⟩ := Item.eq_of_read_path reads
    exact ⟨_, rfl, .kind isName (not_mem_keywords_of_mem_names isName mayBegin)⟩
  · cases isOption
  · obtain ⟨name, isValue, rfl⟩ := Outcomes.map_eq_ok.mp isOption
    obtain rfl := stringValue_eq_ok_iff.mp isValue
    obtain ⟨isJoint, source, rfl⟩ := Item.eq_of_read_assignment reads
    exact ⟨_, rfl, .rename name source isJoint⟩
  · obtain ⟨name, isValue, isKind⟩ := Outcomes.bind_eq_ok.mp isOption
    obtain rfl := stringValue_eq_ok_iff.mp isValue
    obtain ⟨found, isName, rfl⟩ := ofKindName_eq_ok_iff.mp isKind
    obtain ⟨isJoint, source, rfl⟩ := Item.eq_of_read_assignment reads
    exact ⟨_, rfl, .type source isJoint isName⟩
  · cases isOption
  · cases isOption

/-- The name of a kind is not taken for a flag. -/
theorem ofItem_of_mem_names
    {found : SearchKind}
    {name : String}
    (isName : name ∈ found.names) :
    ofItem (.path (.single name)) = .ok (kind found) := by
  have noFlags :
      ∀ found ∈ SearchKind.all, ∀ name ∈ found.names,
        name ≠ "skip" ∧ name ≠ "case_insensitive" ∧ name ≠ "case_sensitive" := by
    decide
  obtain ⟨notSkip, notInsensitive, notSensitive⟩ :=
    noFlags found (SearchKind.mem_all found) name isName
  unfold ofItem
  split
  · next same =>
    cases same
    exact absurd rfl notSkip
  · next same =>
    cases same
    exact absurd rfl notInsensitive
  · next same =>
    cases same
    exact absurd rfl notSensitive
  · next same =>
    cases same
    exact ofKindName_eq_ok_iff.mpr ⟨found, isName, rfl⟩
  all_goals next same => cases same

/-- An option as it is written is read as an item that stands for it. -/
theorem Written.exists_read
    {option : SearchOption}
    {tokens rest : List Token}
    (written : option.Written tokens)
    (ends : EndsItem rest) :
    ∃ item, Item.read (tokens ++ rest) = .ok (item, rest) ∧ ofItem item = .ok option := by
  cases written with
  | skip =>
      exact ⟨_, Item.read_name (by decide) ends, rfl⟩
  | caseSensitive =>
      exact ⟨_, Item.read_name (by decide) ends, rfl⟩
  | caseInsensitive =>
      exact ⟨_, Item.read_name (by decide) ends, rfl⟩
  | kind isName isOwn =>
      exact ⟨_, Item.read_name isOwn ends, ofItem_of_mem_names isName⟩
  | @type kind name source isJoint isName =>
      refine ⟨_, Item.read_assignment (by decide) ends isJoint name source, ?_⟩
      exact ofKindName_eq_ok_iff.mpr ⟨kind, isName, rfl⟩
  | rename name source isJoint =>
      exact ⟨_, Item.read_assignment (by decide) ends isJoint name source, rfl⟩

theorem Written.exists_cons
    {option : SearchOption}
    {tokens : List Token}
    (written : option.Written tokens) :
    ∃ first rest, tokens = first :: rest := by
  cases written <;> exact ⟨_, _, rfl⟩

theorem Written.getLast?_eq
    {option : SearchOption}
    {tokens : List Token}
    (written : option.Written tokens) :
    ∃ last, tokens.getLast? = some last ∧ last.isMark ',' = false := by
  cases written <;> exact ⟨_, rfl, rfl⟩

theorem Written.not_comma
    {option : SearchOption}
    {isJoint : Bool}
    {rest : List Token} :
    ¬ option.Written (.atom (.mark ',' isJoint) :: rest) := by
  rintro ⟨⟩

end SearchOption

namespace SearchOptions

open Reading

/-- Options as they are written are read to the end, as items that stand for them. -/
theorem exists_items_of_listed
    {options : List SearchOption}
    {tokens : List Token}
    (lists : Listed options tokens)
    {fuel : Nat}
    (isEnough : tokens.length ≤ fuel) :
    ∃ items,
      separated Item.read fuel tokens = .ok (items, []) ∧
        items.mapM SearchOption.ofItem = .ok options := by
  induction lists generalizing fuel with
  | none =>
      refine ⟨[], ?_, rfl⟩
      cases fuel <;> rfl
  | last written =>
      obtain ⟨item, reads, isOption⟩ := written.exists_read .atEnd
      obtain ⟨first, rest, rfl⟩ := written.exists_cons
      obtain ⟨fuel, rfl⟩ := Nat.exists_eq_add_one_of_ne_zero (Nat.ne_zero_of_lt isEnough)
      rw [List.append_nil] at reads
      refine ⟨[item], separated_last (List.cons_ne_nil first rest) reads, ?_⟩
      exact Outcomes.mapM_cons_eq_ok_iff.mpr ⟨_, [], isOption, rfl, rfl⟩
  | @cons option own isJoint options rest written _ inductionHypothesis =>
      obtain ⟨item, reads, isOption⟩ := written.exists_read (.atComma isJoint rest)
      obtain ⟨first, more, rfl⟩ := written.exists_cons
      obtain ⟨fuel, rfl⟩ := Nat.exists_eq_add_one_of_ne_zero (Nat.ne_zero_of_lt isEnough)
      have isEnoughAfter : rest.length ≤ fuel := by
        simp only [List.length_append, List.length_cons] at isEnough
        omega
      obtain ⟨items, readsMore, areOptions⟩ := inductionHypothesis isEnoughAfter
      refine ⟨item :: items, separated_cons (by simp) reads readsMore, ?_⟩
      exact Outcomes.mapM_cons_eq_ok_iff.mpr ⟨_, _, isOption, areOptions, rfl⟩

/-- Whatever is read as a list of valid options is a list of options as they are written. -/
theorem listed_of_separated
    {fuel : Nat}
    {tokens rest : List Token}
    (isEnough : tokens.length ≤ fuel)
    {items : List Item}
    (reads : separated Item.read fuel tokens = .ok (items, rest))
    {options : List SearchOption}
    (areOptions : items.mapM SearchOption.ofItem = .ok options) :
    Listed options tokens := by
  induction fuel generalizing tokens items options with
  | zero =>
      obtain rfl := List.eq_nil_of_length_eq_zero (Nat.eq_zero_of_le_zero isEnough)
      cases reads
      cases areOptions
      exact .none
  | succ fuel inductionHypothesis =>
      rcases cases_of_separated reads with ⟨rfl, rfl, -⟩ | ⟨item, between, readsItem, later⟩
      · cases areOptions
        exact .none
      · rcases later with ⟨rfl, rfl, -⟩ | ⟨isJoint, after, more, rfl, readsMore, rfl⟩
        · obtain ⟨option, _, isOption, ⟨⟩, rfl⟩ := Outcomes.mapM_cons_eq_ok_iff.mp areOptions
          obtain ⟨own, rfl, written⟩ := SearchOption.exists_written_of_read readsItem isOption
          rw [List.append_nil]
          exact .last written
        · obtain ⟨option, others, isOption, areMore, rfl⟩ :=
            Outcomes.mapM_cons_eq_ok_iff.mp areOptions
          obtain ⟨own, rfl, written⟩ := SearchOption.exists_written_of_read readsItem isOption
          -- Each step takes a comma at least, so the bound still covers what is left.
          refine .cons isJoint written (inductionHypothesis ?_ readsMore areMore)
          simp only [List.length_append, List.length_cons] at isEnough
          omega

/-- Arguments are read as a list of valid options exactly if they are written as one. -/
theorem listed_eq_ok_iff
    {arguments : List Token}
    {options : List SearchOption} :
    listed arguments = .ok options ↔ Listed options arguments := by
  rw [listed, Outcomes.bind_eq_ok]
  constructor
  · rintro ⟨items, listsItems, areOptions⟩
    obtain ⟨rest, reads⟩ := Item.listOf_eq_ok_iff.mp listsItems
    exact listed_of_separated Nat.le.refl reads areOptions
  · intro lists
    obtain ⟨items, reads, areOptions⟩ := exists_items_of_listed lists Nat.le.refl
    exact ⟨items, Item.listOf_eq_ok_iff.mpr ⟨[], reads⟩, areOptions⟩

/-! A comma after the last option. -/

theorem Listed.append_comma
    {options : List SearchOption}
    {arguments : List Token}
    (lists : Listed options arguments)
    {last : Token}
    (isLast : arguments.getLast? = some last)
    (notComma : last.isMark ',' = false)
    (isJoint : Bool) :
    Listed options (arguments ++ [.atom (.mark ',' isJoint)]) := by
  induction lists with
  | none =>
      cases isLast
  | last written =>
      exact .cons isJoint written .none
  | @cons option tokens isJoint options rest written lists inductionHypothesis =>
      cases rest with
      | nil =>
          rw [List.getLast?_append] at isLast
          cases isLast
          cases notComma
      | cons first rest =>
          rw [List.getLast?_append_of_ne_nil _ (by simp), List.getLast?_cons_cons] at isLast
          rw [List.append_assoc]
          exact .cons isJoint written (inductionHypothesis isLast)

theorem Listed.eq_nil
    {options : List SearchOption}
    {arguments : List Token}
    (lists : Listed options arguments)
    (isEmpty : arguments = []) :
    options = [] := by
  cases lists with
  | none =>
      rfl
  | last written =>
      obtain ⟨_, _, rfl⟩ := written.exists_cons
      cases isEmpty
  | cons _ written _ =>
      simp at isEmpty

/-- Options do not begin with a comma. -/
theorem Listed.not_comma
    {options : List SearchOption}
    {isJoint : Bool}
    {rest : List Token} :
    ¬ Listed options (.atom (.mark ',' isJoint) :: rest) := by
  intro lists
  generalize same : Token.atom (.mark ',' isJoint) :: rest = arguments at lists
  cases lists with
  | none =>
      cases same
  | last written =>
      rw [← same] at written
      exact written.not_comma
  | cons _ written _ =>
      obtain ⟨_, _, rfl⟩ := written.exists_cons
      obtain ⟨rfl, -⟩ := List.cons.inj same
      exact written.not_comma

theorem Listed.of_append_comma
    {options : List SearchOption}
    {arguments : List Token}
    {isJoint : Bool}
    (lists : Listed options (arguments ++ [.atom (.mark ',' isJoint)]))
    {last : Token}
    (isLast : arguments.getLast? = some last) :
    Listed options arguments := by
  generalize same : arguments ++ [.atom (.mark ',' isJoint)] = whole at lists
  induction lists generalizing arguments with
  | none =>
      simp at same
  | last written =>
      obtain ⟨found, isFound, foundNotComma⟩ := written.getLast?_eq
      rw [← same, List.getLast?_append] at isFound
      cases isFound
      cases foundNotComma
  | @cons option tokens isOtherJoint options rest written lists inductionHypothesis =>
      rcases List.eq_nil_or_concat rest with rfl | ⟨front, final, rfl⟩
      · obtain ⟨rfl, -⟩ := List.append_inj' same rfl
        obtain rfl := lists.eq_nil rfl
        exact .last written
      · rw [List.concat_eq_append, ← List.cons_append, ← List.append_assoc] at same
        obtain ⟨rfl, ⟨⟩⟩ := List.append_inj' same rfl
        cases front with
        | nil =>
            exact absurd lists Listed.not_comma
        | cons first front =>
            rw [List.getLast?_append_of_ne_nil _ (by simp), List.getLast?_cons_cons] at isLast
            refine .cons isOtherJoint written (inductionHypothesis isLast ?_)
            rw [List.concat_eq_append]

end SearchOptions

end FieldSearch.Declaration
