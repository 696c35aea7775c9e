import FieldSearch.Declaration.Options
import FieldSearch.Proofs.Outcomes

namespace FieldSearch.Declaration

/-!
# String literals among expressions

Any expression may stand for the value of an option, and most of it is read only to
find its end. A string is nevertheless the value of one expression alone: of a single
string literal with no operator before it and none after it. What remains of the tokens
is found by following the reading backwards: nothing that has taken an operator, a
bracket or a keyword results in a string any more (`Reading.NoString`), so what may
follow an operand passes on a string or takes nothing (`Reading.PassesOn`).
-/

/-- Tokens after an item: there are none, or the first one is a comma. -/
inductive EndsItem : List Token → Prop where
  | atEnd :
      EndsItem []
  | atComma (isJoint : Bool) (later : List Token) :
      EndsItem (.atom (.mark ',' isJoint) :: later)

namespace Reading

/-! What single steps of a reading do. -/

theorem bind_eq_ok_iff
    {first : Reading α}
    {later : α → Reading β}
    {tokens rest : List Token}
    {result : β} :
    (first >>= later) tokens = .ok (result, rest) ↔
      ∃ middle between,
        first tokens = .ok (middle, between) ∧ later middle between = .ok (result, rest) := by
  refine Iff.trans Outcomes.bind_eq_ok ?_
  simp

theorem bind_of_ok
    {first : Reading α}
    {later : α → Reading β}
    {tokens between : List Token}
    {middle : α}
    (reads : first tokens = .ok (middle, between)) :
    (first >>= later) tokens = later middle between := by
  change first tokens >>= _ = _
  rw [reads]
  rfl

theorem get_bind
    (later : List Token → Reading β)
    (tokens : List Token) :
    (get >>= later) tokens = later tokens tokens :=
  rfl

theorem set_bind
    (later : Unit → Reading β)
    (next tokens : List Token) :
    (set next >>= later) tokens = later () next :=
  rfl

theorem skip_bind
    (later : Unit → Reading β)
    (count : Nat)
    (tokens : List Token) :
    (skip count >>= later) tokens = later () (tokens.drop count) :=
  rfl

theorem sees_bind
    (later : Bool → Reading β)
    (property : List Token → Bool)
    (tokens : List Token) :
    (sees property >>= later) tokens = later (property tokens) tokens :=
  rfl

theorem skipOperator_eq
    (operator : String)
    (tokens : List Token) :
    skipOperator operator tokens =
      match afterOperator? operator.toList tokens with
      | some rest => .ok (true, rest)
      | none => .ok (false, tokens) := by
  change (match afterOperator? operator.toList tokens with
    | some rest => (do set rest; return true : Reading Bool)
    | none => return false) tokens = _
  cases afterOperator? operator.toList tokens <;> rfl

theorem eq_of_needGroup
    {bracket : Bracket}
    {tokens content rest : List Token}
    (reads : needGroup bracket tokens = .ok (content, rest)) :
    tokens = .group bracket content :: rest := by
  unfold needGroup at reads
  rw [get_bind] at reads
  split at reads
  · split at reads
    · next same =>
      cases reads
      rw [same]
    · cases reads
  · cases reads

theorem exists_mark_of_afterOperator?
    {character : Char}
    {more : List Char}
    {tokens rest : List Token}
    (found : afterOperator? (character :: more) tokens = some rest) :
    ∃ isJoint later,
      tokens = .atom (.mark character isJoint) :: later ∧
        afterOperator? more later = some rest := by
  match tokens, found with
  | .atom (.mark mark isJoint) :: later, found =>
      rw [afterOperator?] at found
      split at found
      · next isFirst =>
        exact ⟨isJoint, later, by rw [isFirst.1], found⟩
      · cases found

/-! Readings that may end in a string. -/

/-- No string results from the reading, whatever it reads. -/
def NoString (reading : Reading ExpressionForm) : Prop :=
  ∀ tokens value rest, reading tokens ≠ .ok (.string value, rest)

/--
A string results from the reading only if it is the given form, which has been read
already, and nothing more is taken.
-/
def PassesOn (form : ExpressionForm) (reading : Reading ExpressionForm) : Prop :=
  ∀ tokens value rest,
    reading tokens = .ok (.string value, rest) → form = .string value ∧ rest = tokens

section

variable
  {form : ExpressionForm}
  {condition : Prop}
  [Decidable condition]
  {reading otherReading : Reading ExpressionForm}

namespace NoString

protected theorem pure (isOther : form.value = .other) : NoString (pure form) := by
  intro tokens value rest reads
  cases reads
  cases isOther

protected theorem throw (reason : Malformation) : NoString (throw reason) := by
  intro tokens value rest reads
  cases reads

theorem ite
    (noString : NoString reading)
    (noStringElse : NoString otherReading) :
    NoString (if condition then reading else otherReading) := by
  split
  · exact noString
  · exact noStringElse

theorem bind
    {first : Reading α}
    {later : α → Reading ExpressionForm}
    (noString : ∀ result, NoString (later result)) :
    NoString (first >>= later) := by
  intro tokens value rest reads
  obtain ⟨middle, between, -, readsLater⟩ := bind_eq_ok_iff.mp reads
  exact noString middle between value rest readsLater

theorem passesOn (noString : NoString reading) : PassesOn form reading := by
  intro tokens value rest reads
  exact absurd reads (noString tokens value rest)

end NoString

namespace PassesOn

protected theorem pure (form : ExpressionForm) : PassesOn form (pure form) := by
  intro tokens value rest reads
  cases reads
  exact ⟨rfl, rfl⟩

theorem ite
    (passes : PassesOn form reading)
    (passesElse : PassesOn form otherReading) :
    PassesOn form (if condition then reading else otherReading) := by
  split
  · exact passes
  · exact passesElse

theorem get_bind
    {later : List Token → Reading ExpressionForm}
    (passes : ∀ tokens, PassesOn form (later tokens)) :
    PassesOn form (get >>= later) := by
  intro tokens value rest reads
  exact passes tokens tokens value rest reads

theorem noString
    (passes : PassesOn form reading)
    (isOther : form.value = .other) :
    NoString reading := by
  intro tokens value rest reads
  rw [(passes tokens value rest reads).1] at isOther
  cases isOther

end PassesOn

end

theorem passesOn_trailers (form : ExpressionForm) (fuel : Nat) :
    PassesOn form (trailers form fuel) := by
  induction fuel generalizing form with
  | zero =>
      rw [trailers]
      exact .pure form
  | succ fuel inductionHypothesis =>
      have further : NoString (trailers .other fuel) := (inductionHypothesis .other).noString rfl
      rw [trailers]
      refine .get_bind fun tokens => .ite ?_ (.ite ?_ (.ite ?_ (.ite ?_ (.ite ?_ ?_))))
      · exact (NoString.bind fun _ => .bind fun _ => further).passesOn
      · exact (NoString.bind fun _ => .bind fun _ => further).passesOn
      · exact .pure form
      · exact (NoString.bind fun _ => .bind fun _ => further).passesOn
      · exact (NoString.bind fun _ => further).passesOn
      · exact .pure form

theorem passesOn_operations
    (hasStruct : Bool)
    (base : Nat)
    (left : ExpressionForm)
    (fuel : Nat) :
    PassesOn left (operations hasStruct base left fuel) := by
  induction fuel generalizing left with
  | zero =>
      rw [operations]
      exact .pure left
  | succ fuel inductionHypothesis =>
      have further {form : ExpressionForm} (isOther : form.value = .other) :
          NoString (operations hasStruct base form fuel) :=
        (inductionHypothesis form).noString isOther
      rw [operations]
      refine .get_bind fun tokens => .ite (.pure left) ?_
      split
      · refine .ite (.pure left) (.ite (NoString.throw _).passesOn (NoString.passesOn ?_))
        refine .bind fun _ => .bind fun _ => further ?_
        split <;> rfl
      · refine .ite (.pure left) (NoString.passesOn (.ite ?_ (.ite ?_ ?_)))
        · exact .bind fun _ => .bind fun _ => further rfl
        · exact .bind fun _ => further rfl
        · refine .bind fun _ => .bind fun _ => .bind fun _ => ?_
          split
          · exact .throw _
          · exact further rfl

/-- Every operand but a string literal has a form that is no string, whatever it takes. -/
theorem eq_of_simple
    {hasStruct : Bool}
    {fuel : Nat}
    {tokens rest : List Token}
    {value : String}
    (reads : simple hasStruct fuel tokens = .ok (.string value, rest)) :
    ∃ source, tokens = .atom (.string value source) :: rest := by
  cases fuel with
  | zero =>
      rw [simple] at reads
      cases reads
  | succ fuel =>
      rw [simple, get_bind] at reads
      dsimp only at reads
      split at reads
      · cases reads
        exact ⟨_, rfl⟩
      · suffices otherwise : NoString _ from absurd reads (otherwise tokens value rest)
        have ending : NoString (pure (if startsWith ".." tokens then .range else .other)) := by
          apply NoString.pure
          split <;> rfl
        have after (reading : Reading Unit) : NoString (reading >>= fun _ => pure _) :=
          .bind fun _ => ending
        refine .ite (after _) (.ite ?_ (.ite (after _) (.ite (after _) (.ite (after _)
          (.ite ?_ (.ite ?_ (.ite (after _) (.ite (after _) (after _)))))))))
        · exact .bind fun _ => .bind fun _ => after _
        · exact .bind fun _ => .bind fun _ => ending
        · exact .bind fun _ => after _

/-! Where a string literal is read. -/

/-- No attribute is taken where there is none. -/
theorem eq_of_skipAttributes
    {fuel : Nat}
    {tokens between : List Token}
    (plain : (startsWith "#" tokens && startsWithGroup .square (tokens.drop 1)) = false)
    (reads : skipAttributes fuel tokens = .ok ((), between)) :
    between = tokens := by
  cases fuel with
  | zero =>
      rw [skipAttributes] at reads
      cases reads
      rfl
  | succ fuel =>
      rw [skipAttributes] at reads
      obtain ⟨_, afterMark, skips, later⟩ := bind_eq_ok_iff.mp reads
      rw [skipOperator_eq] at skips
      split at skips
      · next rest found =>
        cases skips
        obtain ⟨content, _, takesGroup, -⟩ := bind_eq_ok_iff.mp later
        obtain ⟨isJoint, _, rfl, ⟨⟩⟩ := exists_mark_of_afterOperator? found
        obtain rfl := eq_of_needGroup takesGroup
        cases isJoint <;> cases plain
      · cases skips
        cases later
        rfl

theorem trailers_of_endsItem
    {rest : List Token}
    (ends : EndsItem rest)
    (value : String)
    (fuel : Nat) :
    trailers (.string value) fuel rest = .ok (.string value, rest) := by
  cases fuel <;> rw [trailers] <;> cases ends <;> rfl

theorem operations_of_endsItem
    {rest : List Token}
    (ends : EndsItem rest)
    (hasStruct : Bool)
    (base : Nat)
    (value : String)
    (fuel : Nat) :
    operations hasStruct base (.string value) fuel rest = .ok (.string value, rest) := by
  cases fuel <;> rw [operations] <;> cases ends <;> rfl

theorem simple_string
    (hasStruct : Bool)
    (fuel : Nat)
    (value source : String)
    (rest : List Token) :
    simple hasStruct (fuel + 1) (.atom (.string value source) :: rest) =
      .ok (.string value, rest) := by
  rw [simple]
  rfl

theorem operand_string
    {rest : List Token}
    (ends : EndsItem rest)
    (hasStruct : Bool)
    (fuel : Nat)
    (value source : String) :
    operand hasStruct (fuel + 2) (.atom (.string value source) :: rest) =
      .ok (.string value, rest) := by
  have skipsNone :
      skipAttributes (fuel + 1) (.atom (.string value source) :: rest) =
        .ok ((), .atom (.string value source) :: rest) := rfl
  rw [operand, bind_of_ok skipsNone, get_bind]
  change (simple hasStruct (fuel + 1) >>= fun form => trailers form (fuel + 1))
    (.atom (.string value source) :: rest) = _
  rw [bind_of_ok (simple_string hasStruct fuel value source rest)]
  exact trailers_of_endsItem ends value (fuel + 1)

/-- A string literal at the end of an item is the value of the whole expression. -/
theorem expression_string
    {rest : List Token}
    (ends : EndsItem rest)
    (hasStruct : Bool)
    (fuel : Nat)
    (value source : String) :
    expression hasStruct (fuel + 3) (.atom (.string value source) :: rest) =
      .ok (.string value, rest) := by
  rw [expression, bind_of_ok (operand_string ends hasStruct fuel value source)]
  exact operations_of_endsItem ends hasStruct 0 value (fuel + 2)

theorem eq_of_operand
    {hasStruct : Bool}
    {fuel : Nat}
    {tokens rest : List Token}
    {value : String}
    (plain : (startsWith "#" tokens && startsWithGroup .square (tokens.drop 1)) = false)
    (reads : operand hasStruct fuel tokens = .ok (.string value, rest)) :
    ∃ source, tokens = .atom (.string value source) :: rest := by
  cases fuel with
  | zero =>
      rw [operand] at reads
      cases reads
  | succ fuel =>
      rw [operand] at reads
      obtain ⟨_, between, skips, later⟩ := bind_eq_ok_iff.mp reads
      obtain rfl := eq_of_skipAttributes plain skips
      rw [get_bind] at later
      have prefixed (reading : Reading ExpressionForm) :
          NoString (reading >>= fun _ => pure .other) :=
        .bind fun _ => .pure rfl
      split at later
      · suffices otherwise : NoString _ from absurd later (otherwise _ value rest)
        exact .bind fun _ => .bind fun _ => .ite (.bind fun _ => prefixed _)
          (.bind fun _ => prefixed _)
      · split at later
        · suffices otherwise : NoString _ from absurd later (otherwise _ value rest)
          exact .bind fun _ => prefixed _
        · obtain ⟨form, afterForm, readsForm, readsTrailers⟩ := bind_eq_ok_iff.mp later
          obtain ⟨rfl, rfl⟩ := passesOn_trailers form fuel afterForm value rest readsTrailers
          exact eq_of_simple readsForm

/-- An expression is a string only if it is a single string literal. -/
theorem eq_of_expression
    {hasStruct : Bool}
    {fuel : Nat}
    {tokens rest : List Token}
    {value : String}
    (plain : (startsWith "#" tokens && startsWithGroup .square (tokens.drop 1)) = false)
    (reads : expression hasStruct fuel tokens = .ok (.string value, rest)) :
    ∃ source, tokens = .atom (.string value source) :: rest := by
  cases fuel with
  | zero =>
      rw [expression] at reads
      cases reads
  | succ fuel =>
      rw [expression] at reads
      obtain ⟨form, afterForm, readsForm, readsOperations⟩ := bind_eq_ok_iff.mp reads
      obtain ⟨rfl, rfl⟩ :=
        passesOn_operations hasStruct 0 form fuel afterForm value rest readsOperations
      exact eq_of_operand plain readsForm

end Reading

end FieldSearch.Declaration
