import FieldSearch.Sql.Condition

namespace FieldSearch.Sql

/-!
# Tokens of SQL texts

A SQL text is read character by character, by the rules of the standard: a name
stands in double quotation marks and a string literal in single ones, and inside
either of them its mark is written twice; outside of both, a question mark takes
the place of a parameter. Nothing but the tokens of conditions is read outside of
quotations, so a text with the start of a comment or the end of a statement there
is refused, as is a text whose last quotation is open.
-/

/-- A token of a SQL text. -/
inductive Token where
  /-- A keyword or a number. -/
  | word (spelling : String)
  /-- A comparison. -/
  | operator (spelling : String)
  /-- The content of a quoted name. -/
  | name (content : String)
  /-- The content of a string literal. -/
  | literal (content : String)
  /-- The place of a parameter. -/
  | mark
  | dot
  | comma
  | opening
  | closing
  deriving Repr, DecidableEq

/-- A token in quotation marks. -/
inductive Quotation where
  | name
  | literal
  deriving Repr, DecidableEq

namespace Quotation

/-- The mark at both ends of a quotation. -/
def mark : Quotation → Char
  | name => '"'
  | literal => '\x27'

/-- The token of a quotation. -/
def token (quotation : Quotation) (content : List Char) : Token :=
  match quotation with
  | name => .name (String.ofList content)
  | literal => .literal (String.ofList content)

end Quotation

/-- A token that lasts as long as characters of its sort follow. -/
inductive Sequence where
  | word
  | operator
  deriving Repr, DecidableEq

namespace Sequence

/-- The characters of a sequence. -/
def holds : Sequence → Char → Bool
  | word, character => character.isAlphanum || character == '_'
  | operator, character => ['=', '<', '>'].contains character

/-- The token of a sequence. -/
def token (sequence : Sequence) (spelling : List Char) : Token :=
  match sequence with
  | word => .word (String.ofList spelling)
  | operator => .operator (String.ofList spelling)

end Sequence

/-- What has been read of the token that a text is at. -/
inductive LexerState where
  | between
  | within (sequence : Sequence) (spelling : List Char)
  | inside (quotation : Quotation) (content : List Char)
  /-- A mark that ends the quotation, unless another one follows. -/
  | afterMark (quotation : Quotation) (content : List Char)
  | refused
  deriving Repr, DecidableEq

namespace LexerState

/-- The tokens that are complete with the first character of a token, and the state after it. -/
def start : Char → List Token × LexerState
  | '"' => ([], inside .name [])
  | '\x27' => ([], inside .literal [])
  | '?' => ([.mark], between)
  | '.' => ([.dot], between)
  | ',' => ([.comma], between)
  | '(' => ([.opening], between)
  | ')' => ([.closing], between)
  | character =>
      if character.isWhitespace then
        ([], between)
      else if Sequence.word.holds character then
        ([], within .word [character])
      else if Sequence.operator.holds character then
        ([], within .operator [character])
      else
        ([], refused)

/-- The tokens that are complete with a character, and the state after it. -/
def next (state : LexerState) (character : Char) : List Token × LexerState :=
  match state with
  | between => start character
  | within sequence spelling =>
      if sequence.holds character then
        ([], within sequence (spelling ++ [character]))
      else
        (sequence.token spelling :: (start character).1, (start character).2)
  | inside quotation content =>
      if character = quotation.mark then
        ([], afterMark quotation content)
      else
        ([], inside quotation (content ++ [character]))
  | afterMark quotation content =>
      if character = quotation.mark then
        ([], inside quotation (content ++ [character]))
      else
        (quotation.token content :: (start character).1, (start character).2)
  | refused => ([], refused)

/-- The tokens that are complete with the end of a text; none if it may not end here. -/
def finish? : LexerState → Option (List Token)
  | between => some []
  | within sequence spelling => some [sequence.token spelling]
  | inside _ _ => none
  | afterMark quotation content => some [quotation.token content]
  | refused => none

/-- The tokens that are complete with some characters, and the state after them. -/
def read : LexerState → List Char → List Token × LexerState
  | state, [] => ([], state)
  | state, character :: rest =>
      let (tokens, following) := state.next character
      let (later, last) := following.read rest
      (tokens ++ later, last)

/-- The tokens of a whole text. -/
def readAll? (state : LexerState) (text : List Char) : Option (List Token) :=
  (state.read text).2.finish?.map fun last => (state.read text).1 ++ last

theorem read_append
    (state : LexerState)
    (first second : List Char) :
    state.read (first ++ second) =
      ((state.read first).1 ++ ((state.read first).2.read second).1,
        ((state.read first).2.read second).2) := by
  induction first generalizing state with
  | nil =>
      rfl
  | cons character rest inductionHypothesis =>
      simp [read, inductionHypothesis]

/-- The tokens of a text follow those that were complete before it. -/
theorem readAll?_append
    (state : LexerState)
    (first second : List Char) :
    state.readAll? (first ++ second) =
      ((state.read first).2.readAll? second).map ((state.read first).1 ++ ·) := by
  simp only [readAll?, read_append, Option.map_map, Function.comp_def, List.append_assoc]

/-- Doubled marks are read as what they were written for, until a single one follows. -/
theorem read_inside_name
    (content : List Char)
    (name : List Char) :
    (inside .name content).read (name.flatMap quotedChar ++ ['"']) =
      ([], afterMark .name (content ++ name)) := by
  induction name generalizing content with
  | nil =>
      simp [read, next, Quotation.mark]
  | cons character rest inductionHypothesis =>
      have continued := inductionHypothesis (content ++ [character])
      by_cases isMark : character = '"'
      · subst isMark
        simp [quotedChar, read, next, Quotation.mark, continued]
      · simp [isMark, quotedChar, read, next, Quotation.mark, continued]

theorem read_quoted (name : String) :
    between.read (quoted name) = ([], afterMark .name name.toList) := by
  have content := read_inside_name [] name.toList
  simp [quoted, read, next, start, content]

/-- A quotation is complete when something other than its mark follows. -/
theorem readAll?_afterMark
    {quotation : Quotation}
    {content : List Char}
    {later : List Char}
    (ends : later.head? ≠ some quotation.mark) :
    (afterMark quotation content).readAll? later =
      (between.readAll? later).map (quotation.token content :: ·) := by
  cases later with
  | nil =>
      rfl
  | cons character rest =>
      have notMark : character ≠ quotation.mark := by
        simpa using ends
      simp [readAll?, read, next, notMark, Function.comp_def]

end LexerState

/-- The tokens of a SQL text; none if it is no sequence of tokens. -/
def lex? (text : List Char) : Option (List Token) :=
  LexerState.between.readAll? text

/--
A text is read as tokens, whatever follows it. What follows must not go on with a
quotation that the text has ended with.
-/
def ReadsAs (text : List Char) (tokens : List Token) : Prop :=
  ∀ later,
    later.head? ≠ some '"' →
      lex? (text ++ later) = (lex? later).map (tokens ++ ·)

namespace ReadsAs

theorem lex?_eq
    {text : List Char}
    {tokens : List Token}
    (reads : ReadsAs text tokens) :
    lex? text = some tokens := by
  have alone := reads [] (by simp)
  rw [List.append_nil] at alone
  rw [alone]
  simp [lex?, LexerState.readAll?, LexerState.read, LexerState.finish?]

/-- Any text may follow one that ends between tokens. -/
theorem after_read
    {first second : List Char}
    {firstTokens secondTokens : List Token}
    (readFirst : LexerState.between.read first = (firstTokens, .between))
    (readsSecond : ReadsAs second secondTokens) :
    ReadsAs (first ++ second) (firstTokens ++ secondTokens) := by
  intro later ends
  have rest := readsSecond later ends
  rw [lex?] at rest
  rw [lex?, List.append_assoc, LexerState.readAll?_append, readFirst, rest, Option.map_map]
  simp [Function.comp_def]

theorem of_read
    {text : List Char}
    {tokens : List Token}
    (read : LexerState.between.read text = (tokens, .between)) :
    ReadsAs text tokens := by
  intro later _
  rw [lex?, LexerState.readAll?_append, read]
  rfl

theorem nil : ReadsAs [] [] :=
  of_read rfl

theorem append
    {first second : List Char}
    {firstTokens secondTokens : List Token}
    (readsFirst : ReadsAs first firstTokens)
    (readsSecond : ReadsAs second secondTokens)
    (ends : second.head? ≠ some '"') :
    ReadsAs (first ++ second) (firstTokens ++ secondTokens) := by
  intro later laterEnds
  have secondEnds : (second ++ later).head? ≠ some '"' := by
    cases second with
    | nil =>
        exact laterEnds
    | cons character rest =>
        exact ends
  rw [List.append_assoc, readsFirst (second ++ later) secondEnds,
    readsSecond later laterEnds, Option.map_map]
  simp [Function.comp_def]

/-- A quoted name is read as the name, whatever characters it has. -/
theorem quoted (name : String) :
    ReadsAs (Sql.quoted name) [.name name] := by
  intro later ends
  rw [lex?, LexerState.readAll?_append, LexerState.read_quoted,
    LexerState.readAll?_afterMark ends]
  simp [lex?, Quotation.token, Function.comp_def]

end ReadsAs

end FieldSearch.Sql
