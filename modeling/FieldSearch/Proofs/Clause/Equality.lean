import FieldSearch.Proofs.Clause.ExactNumbers
import FieldSearch.Proofs.Strategy.Building
import FieldSearch.Proofs.Value.Equality

namespace FieldSearch

/-!
# Interchangeable clauses

Equality of clauses compares decimals by value and patterns by their text. A decimal
enters a comparison as the number that it denotes, and a pattern that follows the
letter case of its clause is determined by its text and its other options. So equal
clauses accept the same values, and equal values, if their patterns were compiled
under the same options; the options themselves are not compared.
-/

/-- A pattern is determined by its text, its letter case and its other options. -/
theorem Pattern.eq_of_source_eq
    {left right : Pattern}
    (sameSource : left.source = right.source)
    (sameCase : left.anyCase = right.anyCase)
    (sameOptions : left.options = right.options) :
    left = right := by
  obtain ⟨source, anyCase, options, node, read⟩ := left
  obtain ⟨otherSource, otherAnyCase, otherOptions, otherNode, otherRead⟩ := right
  subst sameSource sameCase sameOptions
  obtain rfl : node = otherNode := Option.some.inj (read.symm.trans otherRead)
  rfl

/-! Equal values differ at most in how their numbers are written. -/

theorem Scalar.sameNumber_of_same
    {left right : Scalar}
    (same : left.same right = true) :
    left.SameNumber right := by
  rcases same_iff.mp same with rfl | ⟨leftNumber, rightNumber, rfl, rfl, sameNumber⟩
  · exact .refl left
  · exact .denoting (congrArg some sameNumber) rfl

mutual

theorem Operand.sameNumbers_of_same :
    ∀ {left right : Operand}, left.same right = true → left.SameNumbers right
  | .scalar _, .scalar _, same => .scalar (Scalar.sameNumber_of_same same)
  | .list _, .list _, same => .list (Operand.sameNumbers_of_sameItems same)

theorem Operand.sameNumbers_of_sameItems :
    ∀ {left right : List Operand},
      sameItems left right = true → List.Forall₂ SameNumbers left right
  | [], [], _ => .nil
  | _ :: _, _ :: _, same => by
      obtain ⟨first, rest⟩ := Bool.and_eq_true_iff.mp same
      exact .cons (Operand.sameNumbers_of_same first) (Operand.sameNumbers_of_sameItems rest)

end

mutual

theorem FieldValue.sameNumbers_of_same :
    ∀ {left right : FieldValue}, left.same right = true → left.SameNumbers right
  | .missing, .missing, _ => .missing
  | .scalar _, .scalar _, same => .scalar (Scalar.sameNumber_of_same same)
  | .list _, .list _, same => .list (FieldValue.sameNumbers_of_sameItems same)

theorem FieldValue.sameNumbers_of_sameItems :
    ∀ {left right : List FieldValue},
      sameItems left right = true → List.Forall₂ SameNumbers left right
  | [], [], _ => .nil
  | _ :: _, _ :: _, same => by
      obtain ⟨first, rest⟩ := Bool.and_eq_true_iff.mp same
      exact .cons (FieldValue.sameNumbers_of_same first)
        (FieldValue.sameNumbers_of_sameItems rest)

end

namespace Clause

/-- The pattern of a clause, if it has one, is one for the letter case of the clause. -/
def PatternFollowsCase (clause : Clause) : Prop :=
  ∀ pattern, clause.pattern = some pattern → pattern.anyCase = !clause.caseSensitive

/-- The options of the pattern of a clause, beside its letter case. -/
def patternOptions? (clause : Clause) : Option Pattern.Options :=
  clause.pattern.map (·.options)

theorem same_iff {left right : Clause} :
    left.same right = true ↔
      left.path = right.path ∧
        left.operator = right.operator ∧
          left.value.same right.value = true ∧
            left.caseSensitive = right.caseSensitive ∧
              left.shape = right.shape ∧
                left.pattern.map (·.source) = right.pattern.map (·.source) := by
  simp [same, samePattern, and_assoc]

theorem equivalence_same : Equivalence fun left right : Clause => left.same right = true where
  refl clause := same_iff.mpr ⟨rfl, rfl, clause.value.same_refl, rfl, rfl, rfl⟩
  symm same := by
    rw [same_iff] at same ⊢
    obtain ⟨path, operator, value, caseSensitive, shape, pattern⟩ := same
    exact ⟨path.symm, operator.symm, Operand.same_symm value, caseSensitive.symm, shape.symm,
      pattern.symm⟩
  trans sameStart sameEnd := by
    rw [same_iff] at sameStart sameEnd ⊢
    obtain ⟨path, operator, value, caseSensitive, shape, pattern⟩ := sameStart
    obtain ⟨path', operator', value', caseSensitive', shape', pattern'⟩ := sameEnd
    exact ⟨path.trans path', operator.trans operator', Operand.same_trans value value',
      caseSensitive.trans caseSensitive', shape.trans shape', pattern.trans pattern'⟩

section

variable {left right : Clause}

/-- Patterns with one text and the same options that follow the letter case are the same. -/
theorem pattern_eq_of_same
    (same : left.same right = true)
    (follows : left.PatternFollowsCase)
    (otherFollows : right.PatternFollowsCase)
    (sameOptions : left.patternOptions? = right.patternOptions?) :
    left.pattern = right.pattern := by
  obtain ⟨-, -, -, sameCase, -, sameSource⟩ := same_iff.mp same
  unfold patternOptions? at sameOptions
  cases isLeft : left.pattern with
  | none =>
      cases isRight : right.pattern with
      | none =>
          rfl
      | some otherPattern =>
          simp [isLeft, isRight] at sameSource
  | some pattern =>
      cases isRight : right.pattern with
      | none =>
          simp [isLeft, isRight] at sameSource
      | some otherPattern =>
          have sameText : pattern.source = otherPattern.source := by
            simpa [isLeft, isRight] using sameSource
          have sameAnyCase : pattern.anyCase = otherPattern.anyCase := by
            rw [follows pattern isLeft, otherFollows otherPattern isRight, sameCase]
          have sameRest : pattern.options = otherPattern.options := by
            simpa [isLeft, isRight] using sameOptions
          rw [Pattern.eq_of_source_eq sameText sameAnyCase sameRest]

/-- Beside their values, equal clauses are the same. -/
theorem eq_update_of_same
    (same : left.same right = true)
    (follows : left.PatternFollowsCase)
    (otherFollows : right.PatternFollowsCase)
    (sameOptions : left.patternOptions? = right.patternOptions?) :
    right = { left with value := right.value } := by
  have samePattern := pattern_eq_of_same same follows otherFollows sameOptions
  obtain ⟨path, operator, -, caseSensitive, shape, -⟩ := same_iff.mp same
  rw [path, operator, caseSensitive, shape, samePattern]

/-- The strategies for text compile patterns for the letter case, under no other options. -/
theorem pattern_of_text
    {caseSensitive : Bool}
    {target : FieldPath}
    {operator : Operator}
    {value : Operand}
    {clause : Clause}
    (built : (Strategy.text caseSensitive).build target operator value = .ok clause) :
    clause.PatternFollowsCase ∧
      ∀ options, clause.patternOptions? = some options → options = {} := by
  rcases Strategy.textClause_eq_ok built with
    ⟨-, patternBuilt⟩ | ⟨-, plain, plainBuilt, rfl⟩
  · obtain ⟨compiled, -, isCompiled, rfl⟩ := Strategy.patternClause_eq_ok patternBuilt
    obtain ⟨-, anyCase, noOptions⟩ := Strategy.eq_of_compileWith? isCompiled
    constructor
    · rintro pattern ⟨⟩
      exact anyCase
    · rintro options ⟨⟩
      exact noOptions
  · have noPattern : plain.pattern = none := by
      rcases Strategy.scalarClause_eq_ok plainBuilt with ⟨_, -, -, rfl⟩ | ⟨-, -, -, rfl⟩ <;> rfl
    simp [PatternFollowsCase, patternOptions?, noPattern]

end

/--
Equal clauses are interchangeable if their patterns were compiled alike. Equality of
clauses is an equivalence. Of equal clauses, whose patterns follow their letter case and
have the same other options, the one accepts a value exactly if the other accepts an
equal value. The text strategies compile all patterns in this way.
-/
theorem accepts_interchangeably :
    Equivalence (fun left right : Clause => left.same right = true) ∧
      (∀ {left right : Clause},
        left.same right = true →
          left.PatternFollowsCase →
            right.PatternFollowsCase →
              left.patternOptions? = right.patternOptions? →
                ∀ {held other : FieldValue},
                  held.same other = true → left.accepts held = right.accepts other) ∧
      ∀ {caseSensitive : Bool} {target : FieldPath} {operator : Operator} {value : Operand}
          {clause : Clause},
        (Strategy.text caseSensitive).build target operator value = .ok clause →
          clause.PatternFollowsCase ∧
            ∀ options, clause.patternOptions? = some options → options = {} := by
  refine ⟨equivalence_same, ?_, pattern_of_text⟩
  intro left right same follows otherFollows sameOptions held other sameHeld
  obtain ⟨-, -, sameValue, -, -, -⟩ := same_iff.mp same
  have accepted :
      { left with value := left.value }.accepts held =
        { left with value := right.value }.accepts other :=
    accepts_sameNumbers (Operand.sameNumbers_of_same sameValue)
      (FieldValue.sameNumbers_of_same sameHeld)
  -- Only the candidates may still differ, and how their numbers are written is not seen.
  rw [eq_update_of_same same follows otherFollows sameOptions]
  exact accepted

/-- One, written without places. -/
def plainOne : Decimal :=
  ⟨false, 1, 0, by decide, by decide⟩

/-- How a rate is written makes no difference; a search for a pattern keeps to its case. -/
theorem accepts_interchangeably_ratesBesideOne :
    (ratesBesideOne .notIn (.list [.scalar (.decimal oneAndNoCents)])).same
        (ratesBesideOne .notIn (.list [.scalar (.decimal plainOne)])) = true ∧
      (ratesBesideOne .notIn (.list [.scalar (.decimal oneAndNoCents)])).accepts
          (.list [.missing, .scalar (.decimal plainOne)]) =
        (ratesBesideOne .notIn (.list [.scalar (.decimal plainOne)])).accepts
          (.list [.missing, .scalar (.decimal oneAndNoCents)]) ∧
      ∃ clause,
        (Strategy.text true).build ⟨[], "name"⟩ .regex (.ofText "a+") = .ok clause ∧
          clause.pattern.isSome = true ∧ clause.PatternFollowsCase := by
  obtain ⟨-, interchangeable, ofText⟩ := accepts_interchangeably
  have same :
      (ratesBesideOne .notIn (.list [.scalar (.decimal oneAndNoCents)])).same
        (ratesBesideOne .notIn (.list [.scalar (.decimal plainOne)])) = true := by
    decide
  have withoutPattern (value : Operand) :
      (ratesBesideOne .notIn value).PatternFollowsCase := by
    intro pattern isPattern
    cases isPattern
  have compiles :
      ((Strategy.text true).build ⟨[], "name"⟩ .regex (.ofText "a+")).toOption.any
        (·.pattern.isSome) = true := by
    decide +kernel
  refine ⟨same,
    interchangeable same (withoutPattern _) (withoutPattern _) rfl (by decide), ?_⟩
  cases built : (Strategy.text true).build ⟨[], "name"⟩ .regex (.ofText "a+") with
  | error failure =>
      simp [built, Except.toOption] at compiles
  | ok clause =>
      refine ⟨clause, rfl, ?_, (ofText built).1⟩
      simpa [built, Except.toOption] using compiles

/-- A search of names for an `a`, any character and a `b`. -/
def namesWithGap (pattern : Pattern) : Clause where
  path := ⟨[], "name"⟩
  operator := .regex
  value := .ofText "a.b"
  pattern := some pattern

theorem accepts_namesWithGap (pattern : Pattern) (content : String) :
    (namesWithGap pattern).accepts (.scalar (.text content)) = pattern.isMatch content := by
  simp [namesWithGap, accepts, holdsOfScalars, holdsOfTexts, Operand.ofText]

/-- Equal clauses do not accept the same texts if a dot is a line feed in one of them alone. -/
theorem accepts_apart_dotAll :
    ∃ plain dotAll : Pattern,
      (namesWithGap plain).same (namesWithGap dotAll) = true ∧
        (namesWithGap plain).PatternFollowsCase ∧
          (namesWithGap dotAll).PatternFollowsCase ∧
            (namesWithGap plain).accepts (.scalar (.text "a\nb")) = false ∧
              (namesWithGap dotAll).accepts (.scalar (.text "a\nb")) = true := by
  have plainFails :
      (Pattern.compileWith? {} "a.b" false).any (·.isMatch "a\nb" == false) = true := by
    decide +kernel
  have dotAllMatches :
      (Pattern.compileWith? { dotAll := true } "a.b" false).any (·.isMatch "a\nb") = true := by
    decide +kernel
  obtain ⟨plain, plainCompiled, fails⟩ := (Option.any_eq_true _ _).mp plainFails
  obtain ⟨dotAll, dotAllCompiled, isMatch⟩ := (Option.any_eq_true _ _).mp dotAllMatches
  obtain ⟨plainSource, plainCase, -⟩ := Strategy.eq_of_compileWith? plainCompiled
  obtain ⟨dotAllSource, dotAllCase, -⟩ := Strategy.eq_of_compileWith? dotAllCompiled
  refine ⟨plain, dotAll, ?_, ?_, ?_, ?_, ?_⟩
  · refine same_iff.mpr ⟨rfl, rfl, Operand.same_refl _, rfl, rfl, ?_⟩
    simp [namesWithGap, plainSource, dotAllSource]
  · rintro pattern ⟨⟩
    exact plainCase
  · rintro pattern ⟨⟩
    exact dotAllCase
  · rw [accepts_namesWithGap]
    exact beq_iff_eq.mp fails
  · rw [accepts_namesWithGap, isMatch]

end Clause

end FieldSearch
