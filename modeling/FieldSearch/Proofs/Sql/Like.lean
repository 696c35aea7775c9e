import FieldSearch.Clause
import FieldSearch.Sql.Like
import FieldSearch.Proofs.Text.LetterCase

namespace FieldSearch.Sql.Like

open Text

/-!
# What LIKE patterns match

LIKE patterns are read into pieces, and a text matches the pieces in order. The
pattern made of a literal text matches just what the text operator asks for,
and lower casing such a pattern gives the pattern of the lowered literal: the
special characters are no letters, so neither their own lower case forms nor
those of their neighbours change.
-/

/-- A part of a pattern. -/
inductive Piece where
  | literal (character : Char)
  | anyText
  | anyChar
  deriving Repr, DecidableEq

/-- The pieces of a pattern; an escape mark has to precede a special character. -/
def pieces? : List Char → Option (List Piece)
  | [] => some []
  | character :: rest =>
      if character = escapeMark then
        match rest with
        | [] => none
        | escaped :: later =>
            if isSpecial escaped then
              (pieces? later).map (.literal escaped :: ·)
            else
              none
      else if character = anyMark then
        (pieces? rest).map (.anyText :: ·)
      else if character = oneMark then
        (pieces? rest).map (.anyChar :: ·)
      else
        (pieces? rest).map (.literal character :: ·)

/-- A text matches pieces from its beginning to its end. -/
def fits : List Piece → List Char → Bool
  | [], text => text.isEmpty
  | .literal wanted :: rest, character :: text => character == wanted && fits rest text
  | .anyChar :: rest, _ :: text => fits rest text
  | .anyText :: rest, text => text.tails.any (fits rest)
  | _ :: _, [] => false

/-- A pattern matches a text. -/
def isMatch (pattern text : List Char) : Bool :=
  (pieces? pattern).any (fits · text)

/-- An escape mark makes a special character a literal one. -/
theorem pieces?_escaped
    {character : Char}
    (special : isSpecial character = true)
    (rest : List Char) :
    pieces? (escapeMark :: character :: rest) =
      (pieces? rest).map (.literal character :: ·) := by
  simp [pieces?, special]

theorem pieces?_anyMark (rest : List Char) :
    pieces? (anyMark :: rest) = (pieces? rest).map (.anyText :: ·) := by
  have notEscape : anyMark ≠ escapeMark := by decide
  cases rest <;> simp [pieces?, notEscape]

/-- Characters without a special meaning are literal. -/
theorem pieces?_ordinary
    {character : Char}
    (ordinary : isSpecial character = false)
    (rest : List Char) :
    pieces? (character :: rest) = (pieces? rest).map (.literal character :: ·) := by
  simp only [isSpecial, Bool.or_eq_false_iff, beq_eq_false_iff_ne] at ordinary
  obtain ⟨⟨notEscape, notAny⟩, notOne⟩ := ordinary
  cases rest <;> simp [pieces?, notEscape, notAny, notOne]

/-- Literal pieces match a text that begins with their characters. -/
theorem fits_literals_append
    (literal : List Char)
    (rest : List Piece)
    (text : List Char) :
    fits (literal.map .literal ++ rest) text = true ↔
      ∃ after, text = literal ++ after ∧ fits rest after = true := by
  induction literal generalizing text with
  | nil =>
      simp
  | cons wanted literal inductionHypothesis =>
      cases text with
      | nil =>
          simp [fits]
      | cons character text =>
          simp only [List.map_cons, List.cons_append, fits, Bool.and_eq_true, beq_iff_eq,
            inductionHypothesis, List.cons.injEq]
          constructor
          · rintro ⟨rfl, after, rfl, fitsRest⟩
            exact ⟨after, ⟨rfl, rfl⟩, fitsRest⟩
          · rintro ⟨after, ⟨rfl, rfl⟩, fitsRest⟩
            exact ⟨rfl, after, rfl, fitsRest⟩

theorem fits_anyText
    (rest : List Piece)
    (text : List Char) :
    fits (.anyText :: rest) text = true ↔
      ∃ before after, text = before ++ after ∧ fits rest after = true := by
  have splits :
      fits (.anyText :: rest) text = true ↔ ∃ after, after <:+ text ∧ fits rest after = true := by
    have unfolded : fits (.anyText :: rest) text = text.tails.any (fits rest) := by
      cases text <;> rfl
    rw [unfolded, List.any_eq_true]
    simp only [List.mem_tails]
  rw [splits]
  constructor
  · rintro ⟨after, ⟨before, rfl⟩, fitsRest⟩
    exact ⟨before, after, rfl, fitsRest⟩
  · rintro ⟨before, after, rfl, fitsRest⟩
    exact ⟨after, ⟨before, rfl⟩, fitsRest⟩

/-- The pieces that a wildcard is read into. -/
def wildcardPieces (wanted : Bool) : List Piece :=
  if wanted then [.anyText] else []

/-- A wildcard at the beginning allows for any text there. -/
theorem fits_wildcardPieces_append
    (wanted : Bool)
    (rest : List Piece)
    (text : List Char) :
    fits (wildcardPieces wanted ++ rest) text = true ↔
      ∃ before after,
        text = before ++ after ∧
          (wanted = false → before = []) ∧
            fits rest after = true := by
  cases wanted with
  | false =>
      simp [wildcardPieces]
  | true =>
      simp [wildcardPieces, fits_anyText]

/-- At the end, a wildcard allows for any text or requires that none is left. -/
theorem fits_wildcardPieces
    (wanted : Bool)
    (text : List Char) :
    fits (wildcardPieces wanted) text = true ↔ (wanted = false → text = []) := by
  cases wanted with
  | false =>
      simp [wildcardPieces, fits]
  | true =>
      have fitsAll : fits [.anyText] text = true :=
        (fits_anyText [] text).mpr ⟨text, [], by simp, rfl⟩
      simp [wildcardPieces, fitsAll]

theorem escape_cons_append
    (character : Char)
    (literal rest : List Char) :
    escape (character :: literal) ++ rest =
      escapeChar character ++ (escape literal ++ rest) := by
  simp [escape]

theorem pieces?_escape_append
    (literal rest : List Char) :
    pieces? (escape literal ++ rest) =
      (pieces? rest).map (literal.map .literal ++ ·) := by
  induction literal with
  | nil =>
      simp [escape]
  | cons character literal inductionHypothesis =>
      have escaped :
          pieces? (escapeChar character ++ (escape literal ++ rest)) =
            (pieces? (escape literal ++ rest)).map (.literal character :: ·) := by
        cases special : isSpecial character with
        | false =>
            simp [escapeChar, special, pieces?_ordinary special]
        | true =>
            simp [escapeChar, special, pieces?_escaped special]
      rw [escape_cons_append, escaped, inductionHypothesis, Option.map_map]
      rfl

/-- The pieces of the pattern of a literal text. -/
theorem pieces?_pattern
    (placement : Placement)
    (literal : List Char) :
    pieces? (pattern placement literal) =
      some (wildcardPieces placement.afterAny ++
        (literal.map .literal ++ wildcardPieces placement.beforeAny)) := by
  have last : pieces? (wildcard placement.beforeAny) =
      some (wildcardPieces placement.beforeAny) := by
    cases placement.beforeAny <;> rfl
  have inner := pieces?_escape_append literal (wildcard placement.beforeAny)
  rw [last, Option.map_some] at inner
  rw [pattern, List.append_assoc]
  cases placement.afterAny with
  | false =>
      simpa [wildcard, wildcardPieces] using inner
  | true =>
      simp only [wildcard, wildcardPieces, ↓reduceIte, List.singleton_append,
        pieces?_anyMark] at inner ⊢
      rw [inner, Option.map_some]

/-- The pattern of a literal text matches the texts that hold it at the placement. -/
theorem isMatch_pattern_iff
    (placement : Placement)
    (literal text : List Char) :
    isMatch (pattern placement literal) text = true ↔
      ∃ before after,
        text = before ++ (literal ++ after) ∧
          (placement.afterAny = false → before = []) ∧
            (placement.beforeAny = false → after = []) := by
  rw [isMatch, pieces?_pattern, Option.any_some, fits_wildcardPieces_append]
  constructor
  · rintro ⟨before, held, rfl, beforeIsEmpty, fitsHeld⟩
    obtain ⟨after, rfl, fitsAfter⟩ := (fits_literals_append _ _ _).mp fitsHeld
    exact ⟨before, after, rfl, beforeIsEmpty, (fits_wildcardPieces _ _).mp fitsAfter⟩
  · rintro ⟨before, after, rfl, beforeIsEmpty, afterIsEmpty⟩
    refine ⟨before, literal ++ after, rfl, beforeIsEmpty, ?_⟩
    exact (fits_literals_append _ _ _).mpr
      ⟨after, rfl, (fits_wildcardPieces _ _).mpr afterIsEmpty⟩

/-- What a text operator asks of the characters that are searched. -/
def Finds : Operator → List Char → List Char → Prop
  | .startsWith, wanted, searched => wanted <+: searched
  | .endsWith, wanted, searched => wanted <:+ searched
  | .contains, wanted, searched => wanted <:+: searched
  | _, _, _ => False

/-- The pattern of a literal text matches what the operator of its placement asks for. -/
theorem isMatch_pattern_iff_finds
    {operator : Operator}
    {placement : Placement}
    (placed : Placement.ofOperator? operator = some placement)
    (wanted searched : List Char) :
    isMatch (pattern placement wanted) searched = true ↔ Finds operator wanted searched := by
  rw [isMatch_pattern_iff]
  cases operator <;> cases placed <;>
    simp only [Finds, Bool.true_eq_false, false_implies, true_and, forall_const, and_true]
  case startsWith =>
    constructor
    · rintro ⟨before, after, isSearched, rfl⟩
      exact ⟨after, isSearched.symm⟩
    · rintro ⟨after, isSearched⟩
      exact ⟨[], after, isSearched.symm, rfl⟩
  case endsWith =>
    constructor
    · rintro ⟨before, after, isSearched, rfl⟩
      exact ⟨before, by simpa using isSearched.symm⟩
    · rintro ⟨before, isSearched⟩
      exact ⟨before, [], by simpa using isSearched.symm, rfl⟩
  case contains =>
    constructor
    · rintro ⟨before, after, isSearched⟩
      exact ⟨before, after, by simpa using isSearched.symm⟩
    · rintro ⟨before, after, isSearched⟩
      exact ⟨before, after, by simpa using isSearched.symm⟩

/-- The pattern of a literal text matches what the operator of its placement accepts. -/
theorem isMatch_pattern_eq_holdsOfTexts
    {operator : Operator}
    {placement : Placement}
    (placed : Placement.ofOperator? operator.normalize = some placement)
    (content argument : String) :
    isMatch (pattern placement argument.toList) content.toList =
      operator.holdsOfTexts content argument := by
  rw [Bool.eq_iff_iff, isMatch_pattern_iff_finds placed]
  cases operator <;> cases placed <;>
    simp only [Finds, Operator.holdsOfTexts, Operator.normalize, decide_eq_true_eq]

/-! Escaping in three steps. -/

/-- Put an escape mark before every occurrence of a mark. -/
def escapeEach (mark : Char) (text : List Char) : List Char :=
  text.flatMap fun character =>
    if character = mark then [escapeMark, character] else [character]

/--
Escaping one mark after another escapes each of them once, since the escape mark is
the first: the marks that the other two steps put in are not escaped again.
-/
theorem escape_eq_escapeEach (literal : List Char) :
    escape literal =
      escapeEach oneMark (escapeEach anyMark (escapeEach escapeMark literal)) := by
  have escapeIsNotAny : escapeMark ≠ anyMark := by decide
  have escapeIsNotOne : escapeMark ≠ oneMark := by decide
  have anyIsNotOne : anyMark ≠ oneMark := by decide
  rw [escapeEach, escapeEach, escapeEach, List.flatMap_assoc, List.flatMap_assoc, escape]
  apply List.flatMap_congr
  intro character _
  by_cases isEscape : character = escapeMark
  · subst isEscape
    simp [escapeChar, isSpecial, escapeIsNotAny, escapeIsNotOne]
  · by_cases isAny : character = anyMark
    · subst isAny
      simp [escapeChar, isSpecial, isEscape, escapeIsNotOne, anyIsNotOne]
    · by_cases isOne : character = oneMark
      · subst isOne
        simp [escapeChar, isSpecial, isEscape, isAny]
      · simp [escapeChar, isSpecial, isEscape, isAny, isOne]

/-! Lower casing of patterns. -/

theorem isAsciiMark_of_isSpecial
    {character : Char}
    (special : isSpecial character = true) :
    isAsciiMark character = true := by
  simp only [isSpecial, Bool.or_eq_true, beq_iff_eq] at special
  rcases special with (rfl | rfl) | rfl <;> decide

set_option maxRecDepth 2000 in
/-- Special characters take no part in case distinctions. -/
theorem caseless_of_isSpecial
    {character : Char}
    (special : isSpecial character = true) :
    isCaseIgnorable character = false ∧ isCased character = false := by
  simp only [isSpecial, Bool.or_eq_true, beq_iff_eq] at special
  rcases special with (rfl | rfl) | rfl <;> decide

/-- A special character ends the search for a cased neighbour, and is none itself. -/
theorem startsCased_cons_of_isSpecial
    {character : Char}
    (special : isSpecial character = true)
    (rest : List Char) :
    startsCased (character :: rest) = false := by
  have caseless := caseless_of_isSpecial special
  simp [startsCased, caseless.1, caseless.2]

/-- A special character is its own lower case form anywhere. -/
theorem lowerFormIn_of_isSpecial
    {character : Char}
    (special : isSpecial character = true)
    (before after : List Char) :
    lowerFormIn before character after = [character] := by
  have isMark := isAsciiMark_of_isSpecial special
  have notSigma : character ≠ capitalSigma := by
    rintro rfl
    exact absurd isMark (by decide)
  rw [lowerFormIn, if_neg notSigma, lowerForm_mark isMark]

/-- No other character has a special one in its lower case form. -/
theorem isSpecial_of_mem_lowerFormIn
    {character lowered : Char}
    (ordinary : isSpecial character = false)
    {before after : List Char}
    (member : lowered ∈ lowerFormIn before character after) :
    isSpecial lowered = false := by
  rw [Bool.eq_false_iff]
  intro special
  have isMark := isAsciiMark_of_isSpecial special
  unfold lowerFormIn at member
  split at member
  · have isSigma : lowered = finalSigma ∨ lowered = smallSigma := by
      split at member <;> simp_all
    rcases isSigma with rfl | rfl <;> exact absurd special (by decide)
  · rw [mark_mem_lowerForm_iff isMark] at member
    rw [member, special] at ordinary
    cases ordinary

/-- Escaping leaves characters alone that are not special. -/
theorem escape_eq_self
    {literal : List Char}
    (ordinary : ∀ character ∈ literal, isSpecial character = false) :
    escape literal = literal := by
  induction literal with
  | nil =>
      rfl
  | cons character literal inductionHypothesis =>
      rw [List.forall_mem_cons] at ordinary
      have rest := inductionHypothesis ordinary.2
      rw [escape] at rest
      simp [escape, escapeChar, ordinary.1, rest]

theorem escape_append (first second : List Char) :
    escape (first ++ second) = escape first ++ escape second := by
  simp [escape]

/-- Escaping hides no cased character and shows none. -/
theorem startsCased_escape_append
    (literal : List Char)
    {rest : List Char}
    (restIsPlain : startsCased rest = false) :
    startsCased (escape literal ++ rest) = startsCased literal := by
  induction literal with
  | nil =>
      simpa [escape, startsCased] using restIsPlain
  | cons character literal inductionHypothesis =>
      rw [escape_cons_append]
      cases special : isSpecial character with
      | false =>
          simp [escapeChar, special, startsCased, inductionHypothesis]
      | true =>
          have escaped : escapeChar character = [escapeMark, character] := by
            simp [escapeChar, special]
          rw [escaped, startsCased_cons_of_isSpecial special]
          exact startsCased_cons_of_isSpecial (by decide) _

/--
Lower casing an escaped text escapes the lowered text. The characters before it
may differ, as long as they agree on whether a cased one comes first.
-/
theorem lowerAfter_escape_append
    (literal : List Char)
    {before around : List Char}
    (sameBefore : startsCased around = startsCased before)
    {rest : List Char}
    (restIsPlain : startsCased rest = false) :
    ∃ beforeRest,
      lowerAfter around (escape literal ++ rest) =
        escape (lowerAfter before literal) ++ lowerAfter beforeRest rest := by
  induction literal generalizing before around with
  | nil =>
      exact ⟨around, rfl⟩
  | cons character literal inductionHypothesis =>
      rw [escape_cons_append, lowerAfter, escape_append]
      cases special : isSpecial character with
      | false =>
          have sameNext :
              startsCased (character :: around) = startsCased (character :: before) := by
            simp only [startsCased, sameBefore]
          obtain ⟨beforeRest, lowered⟩ := inductionHypothesis sameNext
          have sameForm :
              lowerFormIn around character (escape literal ++ rest) =
                lowerFormIn before character literal := by
            simp only [lowerFormIn, sameBefore, startsCased_escape_append literal restIsPlain]
          have formIsPlain : escape (lowerFormIn before character literal) =
              lowerFormIn before character literal :=
            escape_eq_self fun _ member => isSpecial_of_mem_lowerFormIn special member
          refine ⟨beforeRest, ?_⟩
          rw [formIsPlain, List.append_assoc, ← lowered, ← sameForm]
          simp [escapeChar, special, lowerAfter]
      | true =>
          -- The escape mark comes between, but the character itself ends any search behind it.
          have sameNext :
              startsCased (character :: escapeMark :: around) =
                startsCased (character :: before) := by
            rw [startsCased_cons_of_isSpecial special, startsCased_cons_of_isSpecial special]
          obtain ⟨beforeRest, lowered⟩ := inductionHypothesis sameNext
          have escapeIsSpecial : isSpecial escapeMark = true := by decide
          refine ⟨beforeRest, ?_⟩
          rw [lowerFormIn_of_isSpecial special, List.append_assoc, ← lowered]
          simp [escape, escapeChar, special, lowerAfter,
            lowerFormIn_of_isSpecial escapeIsSpecial, lowerFormIn_of_isSpecial special]

/-- Lower casing the pattern of a text makes the pattern of the lowered text. -/
theorem lowerChars_pattern
    (placement : Placement)
    (literal : List Char) :
    lowerChars (pattern placement literal) = pattern placement (lowerChars literal) := by
  have anyIsSpecial : isSpecial anyMark = true := by decide
  have lastIsPlain : startsCased (wildcard placement.beforeAny) = false := by
    cases placement.beforeAny with
    | false =>
        rfl
    | true =>
        exact startsCased_cons_of_isSpecial anyIsSpecial []
  have lastLowered (before : List Char) :
      lowerAfter before (wildcard placement.beforeAny) = wildcard placement.beforeAny := by
    cases placement.beforeAny with
    | false =>
        rfl
    | true =>
        simp [wildcard, lowerAfter, lowerFormIn_of_isSpecial anyIsSpecial]
  have inner {around : List Char} (plainBefore : startsCased around = startsCased []) :
      lowerAfter around (escape literal ++ wildcard placement.beforeAny) =
        escape (lowerAfter [] literal) ++ wildcard placement.beforeAny := by
    obtain ⟨beforeRest, lowered⟩ :=
      lowerAfter_escape_append literal plainBefore lastIsPlain
    rw [lowered, lastLowered]
  rw [lowerChars, lowerChars, pattern, pattern, List.append_assoc, List.append_assoc]
  cases placement.afterAny with
  | false =>
      exact inner rfl
  | true =>
      have afterAny := inner (startsCased_cons_of_isSpecial anyIsSpecial [])
      have first : wildcard true = [anyMark] := rfl
      rw [first, List.singleton_append, List.singleton_append, lowerAfter,
        lowerFormIn_of_isSpecial anyIsSpecial, afterAny]
      rfl

end FieldSearch.Sql.Like
