import Mathlib
import FieldSearch.Text.Case

namespace FieldSearch.Text

/-!
# Parts of lower cased texts

A text that is part of another one is lower cased within it as it is alone, but for
capital sigmas at its edges. Whether such a sigma takes its word-final form depends
on the nearest characters before and after it that are not skipped, and at an edge
these may be characters of the other text. Everywhere else they are the text's own.
-/

/-- A capital sigma between these characters takes the word-final form. -/
def isWordFinal (before after : List Char) : Bool :=
  startsCased before && !startsCased after

/--
The lower case form of characters between others: those before them, nearest
first, and those after them.
-/
def lowerBetween : List Char → List Char → List Char → List Char
  | _, [], _ => []
  | before, character :: rest, after =>
      lowerFormIn before character (rest ++ after) ++
        lowerBetween (character :: before) rest after

/--
Apart from characters that are skipped, a text begins with a capital sigma that
would be word-final if a cased character came before it.
-/
def startsInSigma (characters : List Char) : Bool :=
  match characters.dropWhile isCaseIgnorable with
  | [] => false
  | first :: rest => first == capitalSigma && !startsCased rest

/--
Apart from characters that are skipped, a text ends with a capital sigma that
would not be word-final if a cased character came after it.
-/
def endsInSigma (characters : List Char) : Bool :=
  match characters.reverse.dropWhile isCaseIgnorable with
  | [] => false
  | last :: before => last == capitalSigma && startsCased before

set_option maxRecDepth 2000 in
theorem isCaseIgnorable_capitalSigma : isCaseIgnorable capitalSigma = false := by
  decide

set_option maxRecDepth 2000 in
theorem isCased_capitalSigma : isCased capitalSigma = true := by
  decide

theorem lowerFormIn_capitalSigma (before after : List Char) :
    lowerFormIn before capitalSigma after =
      [if isWordFinal before after then finalSigma else smallSigma] := by
  rw [lowerFormIn, if_pos rfl, isWordFinal]
  split <;> rfl

theorem lowerFormIn_of_ne
    {character : Char}
    (other : character ≠ capitalSigma)
    (before after : List Char) :
    lowerFormIn before character after = lowerForm character := by
  rw [lowerFormIn, if_neg other]

/-! The nearest character that is not skipped. -/

theorem startsCased_append
    (first second : List Char) :
    startsCased (first ++ second) =
      if first.all isCaseIgnorable then startsCased second else startsCased first := by
  induction first with
  | nil =>
      rfl
  | cons character first inductionHypothesis =>
      cases skipped : isCaseIgnorable character with
      | true =>
          simp [startsCased, skipped, inductionHypothesis]
      | false =>
          simp [startsCased, skipped]

theorem startsCased_of_all
    {characters : List Char}
    (skipped : characters.all isCaseIgnorable = true) :
    startsCased characters = false := by
  have appended := startsCased_append characters []
  rw [List.append_nil, if_pos skipped] at appended
  exact appended

theorem startsCased_capitalSigma (rest : List Char) :
    startsCased (capitalSigma :: rest) = true := by
  simp [startsCased, isCaseIgnorable_capitalSigma, isCased_capitalSigma]

/-- Nothing behind a capital sigma counts. -/
theorem startsCased_append_capitalSigma
    (characters rest other : List Char) :
    startsCased (characters ++ capitalSigma :: rest) =
      startsCased (characters ++ capitalSigma :: other) := by
  simp only [startsCased_append, startsCased_capitalSigma]

theorem capitalSigma_not_mem_of_all
    {characters : List Char}
    (skipped : characters.all isCaseIgnorable = true) :
    capitalSigma ∉ characters := by
  intro member
  have ignorable := List.all_eq_true.mp skipped capitalSigma member
  rw [isCaseIgnorable_capitalSigma] at ignorable
  cases ignorable

/-! Capital sigmas at the edges of a text. -/

theorem dropWhile_eq_capitalSigma_cons_iff
    {characters rest : List Char} :
    characters.dropWhile isCaseIgnorable = capitalSigma :: rest ↔
      ∃ skipped,
        characters = skipped ++ capitalSigma :: rest ∧ skipped.all isCaseIgnorable = true := by
  constructor
  · intro dropped
    refine ⟨characters.takeWhile isCaseIgnorable, ?_, List.all_takeWhile⟩
    rw [← dropped, List.takeWhile_append_dropWhile]
  · rintro ⟨skipped, rfl, allSkipped⟩
    rw [List.dropWhile_append_of_pos (List.all_eq_true.mp allSkipped),
      List.dropWhile_cons_of_neg (by simp [isCaseIgnorable_capitalSigma])]

theorem startsInSigma_iff (characters : List Char) :
    startsInSigma characters = true ↔
      ∃ skipped rest,
        characters = skipped ++ capitalSigma :: rest ∧
          skipped.all isCaseIgnorable = true ∧ startsCased rest = false := by
  constructor
  · intro starts
    unfold startsInSigma at starts
    cases dropped : characters.dropWhile isCaseIgnorable with
    | nil =>
        simp [dropped] at starts
    | cons first rest =>
        simp only [dropped, Bool.and_eq_true, beq_iff_eq, Bool.not_eq_eq_eq_not,
          Bool.not_true] at starts
        obtain ⟨rfl, notCased⟩ := starts
        obtain ⟨skipped, split, allSkipped⟩ := dropWhile_eq_capitalSigma_cons_iff.mp dropped
        exact ⟨skipped, rest, split, allSkipped, notCased⟩
  · rintro ⟨skipped, rest, split, allSkipped, notCased⟩
    have dropped := dropWhile_eq_capitalSigma_cons_iff.mpr ⟨skipped, split, allSkipped⟩
    simp [startsInSigma, dropped, notCased]

theorem endsInSigma_iff (characters : List Char) :
    endsInSigma characters = true ↔
      ∃ before skipped,
        characters = before ++ capitalSigma :: skipped ∧
          skipped.all isCaseIgnorable = true ∧ startsCased before.reverse = true := by
  constructor
  · intro ends
    unfold endsInSigma at ends
    cases dropped : characters.reverse.dropWhile isCaseIgnorable with
    | nil =>
        simp [dropped] at ends
    | cons last before =>
        simp only [dropped, Bool.and_eq_true, beq_iff_eq] at ends
        obtain ⟨rfl, cased⟩ := ends
        obtain ⟨skipped, split, allSkipped⟩ := dropWhile_eq_capitalSigma_cons_iff.mp dropped
        refine ⟨before.reverse, skipped.reverse, ?_, ?_, ?_⟩
        · rw [← List.reverse_reverse characters, split]
          simp
        · rw [List.all_reverse]
          exact allSkipped
        · rw [List.reverse_reverse]
          exact cased
  · rintro ⟨before, skipped, rfl, allSkipped, cased⟩
    have dropped :
        (before ++ capitalSigma :: skipped).reverse.dropWhile isCaseIgnorable =
          capitalSigma :: before.reverse := by
      refine dropWhile_eq_capitalSigma_cons_iff.mpr ⟨skipped.reverse, by simp, ?_⟩
      rw [List.all_reverse]
      exact allSkipped
    rw [endsInSigma, dropped]
    simp [cased]

/-! Lower casing between other characters. -/

theorem lowerBetween_nil_after (before characters : List Char) :
    lowerBetween before characters [] = lowerAfter before characters := by
  induction characters generalizing before with
  | nil =>
      rfl
  | cons character rest inductionHypothesis =>
      rw [lowerBetween, lowerAfter, inductionHypothesis, List.append_nil]

theorem lowerBetween_append (before first second after : List Char) :
    lowerBetween before (first ++ second) after =
      lowerBetween before first (second ++ after) ++
        lowerBetween (first.reverse ++ before) second after := by
  induction first generalizing before with
  | nil =>
      rfl
  | cons character first inductionHypothesis =>
      simp [lowerBetween, inductionHypothesis]

/-- Only what is near its capital sigmas makes a difference to a text. -/
theorem lowerBetween_congr
    {characters before around after beyond : List Char}
    (sameForms :
      ∀ first rest,
        characters = first ++ capitalSigma :: rest →
          isWordFinal (first.reverse ++ before) (rest ++ after) =
            isWordFinal (first.reverse ++ around) (rest ++ beyond)) :
    lowerBetween before characters after = lowerBetween around characters beyond := by
  induction characters generalizing before around with
  | nil =>
      rfl
  | cons character rest inductionHypothesis =>
      have sameForm :
          lowerFormIn before character (rest ++ after) =
            lowerFormIn around character (rest ++ beyond) := by
        by_cases isSigma : character = capitalSigma
        · have same := sameForms [] rest (by rw [isSigma, List.nil_append])
          rw [List.reverse_nil, List.nil_append, List.nil_append] at same
          rw [isSigma, lowerFormIn_capitalSigma, lowerFormIn_capitalSigma, same]
        · rw [lowerFormIn_of_ne isSigma, lowerFormIn_of_ne isSigma]
      have sameRest :
          lowerBetween (character :: before) rest after =
            lowerBetween (character :: around) rest beyond := by
        apply inductionHypothesis
        intro first later split
        have same := sameForms (character :: first) later (by rw [split, List.cons_append])
        simpa using same
      rw [lowerBetween, lowerBetween, sameForm, sameRest]

/--
Around a capital sigma, other characters make a difference at the edges of a text
alone: before it, if nothing between counts and no cased character follows; after
it, if nothing between counts and a cased character precedes.
-/
theorem isWordFinal_append
    {first rest before after : List Char}
    (startKept :
      first.all isCaseIgnorable = true → startsCased before = true → startsCased rest = true)
    (endKept :
      rest.all isCaseIgnorable = true →
        startsCased after = true → startsCased first.reverse = false) :
    isWordFinal (first.reverse ++ before) (rest ++ after) = isWordFinal first.reverse rest := by
  rw [isWordFinal, isWordFinal, startsCased_append, startsCased_append, List.all_reverse]
  by_cases firstSkipped : first.all isCaseIgnorable = true
  · have noneBefore : startsCased first.reverse = false := by
      rw [← List.all_reverse] at firstSkipped
      exact startsCased_of_all firstSkipped
    have casedAfter := startKept firstSkipped
    rw [if_pos firstSkipped, noneBefore]
    cases casedBefore : startsCased before with
    | false =>
        rfl
    | true =>
        have notSkipped : ¬ rest.all isCaseIgnorable = true := by
          intro restSkipped
          rw [startsCased_of_all restSkipped] at casedAfter
          exact Bool.false_ne_true (casedAfter casedBefore)
        rw [if_neg notSkipped, casedAfter casedBefore]
        rfl
  · rw [if_neg firstSkipped]
    by_cases restSkipped : rest.all isCaseIgnorable = true
    · have noneBefore := endKept restSkipped
      rw [if_pos restSkipped, startsCased_of_all restSkipped]
      cases casedAfter : startsCased after with
      | false =>
          rfl
      | true =>
          rw [noneBefore casedAfter]
          rfl
    · rw [if_neg restSkipped]

/-- A text without capital sigmas at its edges is lower cased as it is alone. -/
theorem lowerBetween_eq_lowerChars
    {characters before after : List Char}
    (startKept : startsCased before = true → startsInSigma characters = false)
    (endKept : startsCased after = true → endsInSigma characters = false) :
    lowerBetween before characters after = lowerChars characters := by
  rw [lowerChars, ← lowerBetween_nil_after]
  apply lowerBetween_congr
  intro first rest split
  rw [List.append_nil, List.append_nil]
  apply isWordFinal_append
  · intro firstSkipped casedBefore
    by_contra notCased
    rw [Bool.not_eq_true] at notCased
    have starts := (startsInSigma_iff characters).mpr ⟨first, rest, split, firstSkipped, notCased⟩
    rw [startKept casedBefore] at starts
    cases starts
  · intro restSkipped casedAfter
    by_contra cased
    rw [Bool.not_eq_false] at cased
    have ends := (endsInSigma_iff characters).mpr ⟨first, rest, split, restSkipped, cased⟩
    rw [endKept casedAfter] at ends
    cases ends

/-! Parts of a text, and parts of the lower cased text. -/

theorem toList_lowercase (text : String) :
    (lowercase text).toList = lowerChars text.toList := by
  rw [lowercase, String.toList_ofList]

theorem lowerChars_append (first second : List Char) :
    lowerChars (first ++ second) =
      lowerBetween [] first second ++ lowerAfter first.reverse second := by
  rw [lowerChars, ← lowerBetween_nil_after, lowerBetween_append, lowerBetween_nil_after,
    List.append_nil, List.append_nil]

/-- A beginning is kept unless it ends in a capital sigma. -/
theorem lowerChars_isPrefix
    {part content : List Char}
    (closedEnd : endsInSigma part = false)
    (isPart : part <+: content) :
    lowerChars part <+: lowerChars content := by
  obtain ⟨after, rfl⟩ := isPart
  rw [lowerChars_append, lowerBetween_eq_lowerChars (fun cased => absurd cased (by decide))
    (fun _ => closedEnd)]
  exact List.prefix_append _ _

/-- An end is kept unless it starts with a capital sigma. -/
theorem lowerChars_isSuffix
    {part content : List Char}
    (closedStart : startsInSigma part = false)
    (isPart : part <:+ content) :
    lowerChars part <:+ lowerChars content := by
  obtain ⟨before, rfl⟩ := isPart
  rw [lowerChars_append, ← lowerBetween_nil_after, lowerBetween_eq_lowerChars (fun _ => closedStart)
    (fun cased => absurd cased (by decide))]
  exact List.suffix_append _ _

/-- A part is kept unless there is a capital sigma at one of its edges. -/
theorem lowerChars_isInfix
    {part content : List Char}
    (closedStart : startsInSigma part = false)
    (closedEnd : endsInSigma part = false)
    (isPart : part <:+: content) :
    lowerChars part <:+: lowerChars content := by
  obtain ⟨before, after, rfl⟩ := isPart
  rw [List.append_assoc, lowerChars_append, ← lowerBetween_nil_after, lowerBetween_append,
    lowerBetween_eq_lowerChars (fun _ => closedStart) (fun _ => closedEnd), ← List.append_assoc]
  exact List.infix_append _ _ _

/-! Texts within which a capital sigma at an edge takes another form. -/

theorem lowerBetween_capitalSigma (before first rest after : List Char) :
    lowerBetween before (first ++ capitalSigma :: rest) after =
      lowerBetween before first (capitalSigma :: (rest ++ after)) ++
        (if isWordFinal (first.reverse ++ before) (rest ++ after) then
          finalSigma
        else
          smallSigma) ::
          lowerBetween (capitalSigma :: (first.reverse ++ before)) rest after := by
  rw [lowerBetween_append, lowerBetween, lowerFormIn_capitalSigma]
  rfl

/-- What comes after a capital sigma makes no difference before it. -/
theorem lowerBetween_before_capitalSigma (before characters after beyond : List Char) :
    lowerBetween before characters (capitalSigma :: after) =
      lowerBetween before characters (capitalSigma :: beyond) := by
  apply lowerBetween_congr
  intro first rest _
  rw [isWordFinal, isWordFinal, startsCased_append_capitalSigma rest after beyond]

/-- What comes before a capital sigma makes no difference after it. -/
theorem lowerBetween_after_capitalSigma (before around characters after : List Char) :
    lowerBetween (capitalSigma :: before) characters after =
      lowerBetween (capitalSigma :: around) characters after := by
  apply lowerBetween_congr
  intro first rest _
  rw [isWordFinal, isWordFinal, startsCased_append_capitalSigma first.reverse before around]

/-- Characters that are skipped do not depend on their neighbours. -/
theorem lowerBetween_of_all
    {characters : List Char}
    (skipped : characters.all isCaseIgnorable = true)
    (before around after beyond : List Char) :
    lowerBetween before characters after = lowerBetween around characters beyond := by
  apply lowerBetween_congr
  rintro first rest rfl
  exact absurd (by simp) (capitalSigma_not_mem_of_all skipped)

/-- Characters of which one has been replaced are not part of the result. -/
theorem not_isInfix_of_replaced
    {mark other : Char}
    (replaced : other ≠ mark)
    {front back : List Char}
    (notInFront : mark ∉ front)
    (notInBack : mark ∉ back)
    (before after : List Char) :
    ¬ before ++ mark :: after <:+: front ++ (before ++ other :: after) ++ back := by
  intro isPart
  have counted := isPart.sublist.count_le mark
  simp only [List.count_append, List.count_cons_self, List.count_cons_of_ne replaced,
    List.count_eq_zero_of_not_mem notInFront, List.count_eq_zero_of_not_mem notInBack] at counted
  omega

set_option maxRecDepth 2000 in
theorem startsCased_letter : startsCased ['a'] = true := by
  decide

theorem lowerFormIn_letter (before after : List Char) :
    lowerFormIn before 'a' after = ['a'] := by
  rw [lowerFormIn_of_ne (by decide)]
  decide

/-- Before a letter, a text does not keep the word-final sigma that it ends in. -/
theorem not_isInfix_of_endsInSigma
    {part : List Char}
    (ends : endsInSigma part = true) :
    ¬ lowerChars part <:+: lowerChars (part ++ ['a']) := by
  obtain ⟨before, skipped, rfl, allSkipped, cased⟩ := (endsInSigma_iff part).mp ends
  have finalAlone : isWordFinal (before.reverse ++ []) (skipped ++ []) = true := by
    simp [isWordFinal, cased, startsCased_of_all allSkipped]
  have notFinal : isWordFinal (before.reverse ++ []) (skipped ++ ['a']) = false := by
    rw [isWordFinal, startsCased_append skipped, if_pos allSkipped, startsCased_letter,
      Bool.not_true, Bool.and_false]
  have alone :
      lowerChars (before ++ capitalSigma :: skipped) =
        lowerBetween [] before [capitalSigma] ++ finalSigma :: lowerBetween [] skipped [] := by
    rw [lowerChars, ← lowerBetween_nil_after, lowerBetween_capitalSigma, if_pos finalAlone,
      lowerBetween_before_capitalSigma _ _ _ [], lowerBetween_of_all allSkipped _ [] _ []]
  have within :
      lowerChars (before ++ capitalSigma :: skipped ++ ['a']) =
        [] ++ (lowerBetween [] before [capitalSigma] ++
          smallSigma :: lowerBetween [] skipped []) ++ ['a'] := by
    rw [lowerChars_append, lowerBetween_capitalSigma, notFinal,
      lowerBetween_before_capitalSigma _ _ _ [], lowerBetween_of_all allSkipped _ [] _ [],
      lowerAfter, lowerFormIn_letter]
    rfl
  rw [alone, within]
  exact not_isInfix_of_replaced (by decide) (by decide) (by decide) _ _

/-- After a letter, a text does not keep the small sigma that it starts with. -/
theorem not_isInfix_of_startsInSigma
    {part : List Char}
    (starts : startsInSigma part = true) :
    ¬ lowerChars part <:+: lowerChars ('a' :: part) := by
  obtain ⟨skipped, rest, rfl, allSkipped, notCased⟩ := (startsInSigma_iff part).mp starts
  have allSkippedBefore : skipped.reverse.all isCaseIgnorable = true := by
    rw [List.all_reverse]
    exact allSkipped
  have notFinal : isWordFinal (skipped.reverse ++ []) (rest ++ []) = false := by
    rw [List.append_nil, isWordFinal, startsCased_of_all allSkippedBefore, Bool.false_and]
  have finalWithin : isWordFinal (skipped.reverse ++ ['a']) (rest ++ []) = true := by
    rw [List.append_nil, isWordFinal, startsCased_append, if_pos allSkippedBefore,
      startsCased_letter, notCased]
    rfl
  have alone :
      lowerChars (skipped ++ capitalSigma :: rest) =
        lowerBetween [] skipped [] ++ smallSigma :: lowerBetween [capitalSigma] rest [] := by
    rw [lowerChars, ← lowerBetween_nil_after, lowerBetween_capitalSigma, notFinal,
      lowerBetween_of_all allSkipped _ [] _ [], lowerBetween_after_capitalSigma _ []]
    rfl
  have within :
      lowerChars ('a' :: (skipped ++ capitalSigma :: rest)) =
        ['a'] ++ (lowerBetween [] skipped [] ++
          finalSigma :: lowerBetween [capitalSigma] rest []) ++ [] := by
    rw [lowerChars, lowerAfter, lowerFormIn_letter, ← lowerBetween_nil_after,
      lowerBetween_capitalSigma, if_pos finalWithin, lowerBetween_of_all allSkipped _ [] _ [],
      lowerBetween_after_capitalSigma _ [], List.append_nil]
  rw [alone, within]
  exact not_isInfix_of_replaced (by decide) (by decide) (by decide) _ _

end FieldSearch.Text
