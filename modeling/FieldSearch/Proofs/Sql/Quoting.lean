import FieldSearch.Proofs.Sql.Lexer
import FieldSearch.Proofs.Sql.Lowering

namespace FieldSearch

/-!
# Names and marks in SQL conditions

The written form of a condition is read as tokens in which every part of its
column or relation is one name, whatever characters the part has, and every
parameter is one mark. A condition therefore says which field it is about, and
conditions on different fields are written differently.
-/

namespace Sql

/-- The tokens of the parts of a qualified name. -/
def nameTokens (parts : List String) : List Token :=
  (parts.map Token.name).intersperse .dot

/-- The tokens of an expression, possibly in lower case. -/
def loweredTokens (lowered : Bool) (expression : List Token) : List Token :=
  if lowered then [.word "LOWER", .opening] ++ expression ++ [.closing] else expression

/-- The tokens of a number of marks in brackets. -/
def markTokens (count : Nat) : List Token :=
  .opening :: (List.replicate count .mark).intersperse .comma ++ [.closing]

/-- The tokens of a column. -/
def Column.tokens (column : Column) : List Token :=
  loweredTokens column.lowered (nameTokens column.parts)

/-- The tokens of a keyword that may be negated. -/
def keywordTokens (negated : Bool) (keyword : String) : List Token :=
  if negated then [.word "NOT", .word keyword] else [.word keyword]

/-- The tokens of a condition. -/
def Condition.tokens : Condition → List Token
  | constant truth => [.word "1", .operator "=", .word (if truth then "1" else "0")]
  | compare column comparison _ =>
      column.tokens ++ [.operator (String.ofList comparison.symbol), .mark]
  | like column _ => column.tokens ++ [.word "LIKE", .mark, .word "ESCAPE", .literal "\\"]
  | member column negated members =>
      column.tokens ++ keywordTokens negated "IN" ++ markTokens members.length
  | element relation negated members =>
      keywordTokens negated "EXISTS" ++ [.opening, .word "SELECT", .word "1", .word "FROM"] ++
        nameTokens relation.parts ++ [.word "WHERE"] ++
          loweredTokens relation.lowered [.name elementColumn] ++
            [.word "IN"] ++ markTokens members.length ++ [.closing]

/-! Every piece of a condition is read as its tokens. -/

/-- Names that dots join are read one by one. -/
theorem readsAs_qualified (parts : List String) :
    ReadsAs (qualified parts) (nameTokens parts) := by
  induction parts with
  | nil =>
      exact .nil
  | cons first rest inductionHypothesis =>
      cases rest with
      | nil =>
          simpa [qualified, nameTokens] using ReadsAs.quoted first
      | cons second others =>
          have dot : LexerState.between.read ['.'] = ([.dot], .between) := rfl
          have dotted := ReadsAs.after_read dot inductionHypothesis
          exact (ReadsAs.quoted first).append dotted (by simp)

theorem read_marks (count : Nat) :
    LexerState.between.read ([',', ' '].intercalate (List.replicate count ['?'])) =
      ((List.replicate count .mark).intersperse .comma, .between) := by
  induction count with
  | zero =>
      rfl
  | succ count inductionHypothesis =>
      cases count with
      | zero =>
          rfl
      | succ count =>
          have marks :
              [',', ' '].intercalate (List.replicate (count + 2) ['?']) =
                ['?', ',', ' '] ++ [',', ' '].intercalate (List.replicate (count + 1) ['?']) := by
            rw [List.replicate_succ, List.replicate_succ, List.intercalate_cons_cons]
            rfl
          have first : LexerState.between.read ['?', ',', ' '] = ([.mark, .comma], .between) :=
            rfl
          rw [marks, LexerState.read_append, first, inductionHypothesis]
          rfl

theorem readsAs_markList (count : Nat) :
    ReadsAs (markList count) (markTokens count) := by
  apply ReadsAs.of_read
  have marks := read_marks count
  simp [markList, markTokens, LexerState.read, LexerState.next, LexerState.start,
    LexerState.read_append, marks]

theorem readsAs_loweredIf
    (lowered : Bool)
    {expression : List Char}
    {tokens : List Token}
    (reads : ReadsAs expression tokens) :
    ReadsAs (loweredIf lowered expression) (loweredTokens lowered tokens) := by
  cases lowered with
  | false =>
      exact reads
  | true =>
      have opening : LexerState.between.read "LOWER(".toList =
          ([.word "LOWER", .opening], .between) := rfl
      have closing : ReadsAs [')'] [.closing] := .of_read rfl
      simpa [loweredIf, loweredTokens] using
        ReadsAs.after_read opening (reads.append closing (by simp))

theorem Column.readsAs (column : Column) :
    ReadsAs column.toChars column.tokens :=
  readsAs_loweredIf column.lowered (readsAs_qualified column.parts)

/-- A condition is read as its tokens. -/
theorem Condition.lex?_toChars (condition : Condition) :
    lex? condition.toChars = some condition.tokens := by
  cases condition with
  | constant truth =>
      cases truth <;> rfl
  | compare column comparison parameter =>
      have test : LexerState.between.read (' ' :: comparison.symbol ++ [' ', '?']) =
          ([.operator (String.ofList comparison.symbol), .mark], .between) := by
        cases comparison <;> rfl
      have reads := column.readsAs.append (.of_read test) (by simp)
      simpa [toChars, tokens] using reads.lex?_eq
  | like column pattern =>
      have test : lex? " LIKE ? ESCAPE '\\'".toList =
          some [.word "LIKE", .mark, .word "ESCAPE", .literal "\\"] := rfl
      -- The text ends in a literal, so it is no `ReadsAs` by itself and is read to its end here.
      rw [toChars, column.readsAs _ (by simp), test]
      rfl
  | member column negated members =>
      have keyword : LexerState.between.read (membershipKeyword negated) =
          (keywordTokens negated "IN", .between) := by
        cases negated <;> rfl
      have test := ReadsAs.after_read keyword (readsAs_markList members.length)
      have reads := column.readsAs.append test (by cases negated <;> simp [membershipKeyword])
      simpa [toChars, tokens] using reads.lex?_eq
  | element relation negated members =>
      have keyword :
          LexerState.between.read (existenceKeyword negated ++ "(SELECT 1 FROM ".toList) =
            (keywordTokens negated "EXISTS" ++
              [.opening, .word "SELECT", .word "1", .word "FROM"], .between) := by
        cases negated <;> rfl
      have conjunction : LexerState.between.read " WHERE ".toList = ([.word "WHERE"], .between) :=
        rfl
      have membership : LexerState.between.read " IN ".toList = ([.word "IN"], .between) := rfl
      have closing : ReadsAs [')'] [.closing] := .of_read rfl
      have value := readsAs_loweredIf relation.lowered (.quoted elementColumn)
      have marks := (readsAs_markList members.length).append closing (by simp)
      have test := value.append (.after_read membership marks) (by simp)
      have rows := (readsAs_qualified relation.parts).append (.after_read conjunction test)
        (by simp)
      simpa [toChars, tokens] using (ReadsAs.after_read keyword rows).lex?_eq

/-! Every parameter has its mark. -/

theorem count_intersperse
    {separator item : Token}
    (different : separator ≠ item)
    (items : List Token) :
    (items.intersperse separator).count item = items.count item := by
  induction items with
  | nil =>
      rfl
  | cons first rest inductionHypothesis =>
      cases rest with
      | nil =>
          rfl
      | cons second others =>
          rw [List.intersperse_cons_cons, List.count_cons, List.count_cons_of_ne different,
            inductionHypothesis, ← List.count_cons]

@[simp] theorem count_mark_nameTokens (parts : List String) :
    (nameTokens parts).count .mark = 0 := by
  rw [nameTokens, count_intersperse (by simp), List.count_eq_zero]
  simp

@[simp] theorem count_mark_markTokens (count : Nat) :
    (markTokens count).count .mark = count := by
  simp [markTokens, count_intersperse]

@[simp] theorem count_mark_loweredTokens
    (lowered : Bool)
    (expression : List Token) :
    (loweredTokens lowered expression).count .mark = expression.count .mark := by
  cases lowered <;> simp [loweredTokens]

@[simp] theorem count_mark_keywordTokens
    (negated : Bool)
    (keyword : String) :
    (keywordTokens negated keyword).count .mark = 0 := by
  cases negated <;> simp [keywordTokens]

theorem Condition.count_mark_tokens (condition : Condition) :
    condition.tokens.count .mark = condition.parameters.length := by
  cases condition <;> simp [tokens, parameters, Column.tokens]

/-! The names in the place of the column or relation are the parts of its path. -/

/-- The column or relation that a condition is about; a constant is about none. -/
def Condition.column? : Condition → Option Column
  | constant _ => none
  | compare column _ _ => some column
  | like column _ => some column
  | member column _ _ => some column
  | element relation _ _ => some relation

/-- The names that dots join at the start of tokens. -/
def dottedNames : List Token → List String
  | .name part :: .dot :: rest => part :: dottedNames rest
  | .name part :: _ => [part]
  | _ => []

/-- A keyword or an opening bracket, which may stand before the column of a condition. -/
def Token.isIntroductory : Token → Bool
  | word _ => true
  | opening => true
  | _ => false

/-- The names in the place of the column or relation that a condition is about. -/
def subject (tokens : List Token) : List String :=
  dottedNames (tokens.dropWhile Token.isIntroductory)

theorem dottedNames_nameTokens
    {parts : List String}
    (nonempty : parts ≠ [])
    {later : List Token}
    (ends : later.head? ≠ some .dot) :
    dottedNames (nameTokens parts ++ later) = parts := by
  induction parts with
  | nil =>
      exact absurd rfl nonempty
  | cons first rest inductionHypothesis =>
      cases rest with
      | nil =>
          cases later with
          | nil =>
              rfl
          | cons token others =>
              cases token <;> first | rfl | exact absurd rfl ends
      | cons second others =>
          have names := inductionHypothesis (by simp)
          simp only [nameTokens, List.map_cons] at names
          simp only [nameTokens, List.map_cons, List.intersperse_cons_cons, List.cons_append,
            dottedNames, names]

theorem subject_nameTokens
    {parts : List String}
    (nonempty : parts ≠ [])
    (later : List Token)
    (ends : later.head? ≠ some .dot) :
    subject (nameTokens parts ++ later) = parts := by
  have noKeyword : (nameTokens parts ++ later).dropWhile Token.isIntroductory =
      nameTokens parts ++ later := by
    obtain ⟨first, rest, rfl⟩ := List.exists_cons_of_ne_nil nonempty
    cases rest <;> rfl
  rw [subject, noKeyword, dottedNames_nameTokens nonempty ends]

theorem subject_column
    {column : Column}
    (nonempty : column.parts ≠ [])
    (later : List Token)
    (ends : later.head? ≠ some .dot) :
    subject (column.tokens ++ later) = column.parts := by
  cases lowered : column.lowered with
  | false =>
      simpa [Column.tokens, loweredTokens, lowered] using subject_nameTokens nonempty later ends
  | true =>
      have inside := subject_nameTokens nonempty (.closing :: later) (by simp)
      rw [Column.tokens, loweredTokens, if_pos lowered]
      simpa [subject, Token.isIntroductory, List.dropWhile_cons] using inside

theorem Column.parts_eq_of_toChars_eq
    {left right : Column}
    (leftNonempty : left.parts ≠ [])
    (rightNonempty : right.parts ≠ [])
    (same : left.toChars = right.toChars) :
    left.parts = right.parts := by
  have sameTokens : some left.tokens = some right.tokens := by
    rw [← left.readsAs.lex?_eq, same, right.readsAs.lex?_eq]
  rw [Option.some.injEq] at sameTokens
  have leftParts := subject_column leftNonempty [] (by simp)
  have rightParts := subject_column rightNonempty [] (by simp)
  rw [← leftParts, sameTokens, rightParts]

/-- A condition with a column or relation is about it. -/
theorem Condition.subject_tokens
    {condition : Condition}
    {column : Column}
    (isAbout : condition.column? = some column)
    (nonempty : column.parts ≠ []) :
    subject condition.tokens = column.parts := by
  cases condition with
  | constant truth =>
      cases isAbout
  | compare _ comparison parameter =>
      cases isAbout
      exact subject_column nonempty _ (by simp)
  | like _ pattern =>
      cases isAbout
      exact subject_column nonempty _ (by simp)
  | member _ negated members =>
      cases isAbout
      rw [tokens, List.append_assoc]
      exact subject_column nonempty _ (by cases negated <;> simp [keywordTokens])
  | element _ negated members =>
      cases isAbout
      have names := subject_nameTokens nonempty
        (.word "WHERE" :: (loweredTokens column.lowered [.name elementColumn] ++
          [.word "IN"] ++ markTokens members.length ++ [.closing]))
        (by simp)
      cases negated <;>
        simpa [tokens, keywordTokens, subject, Token.isIntroductory, List.dropWhile_cons]
          using names

end Sql

open Sql

theorem FieldPath.parts_ne_nil (path : FieldPath) :
    path.parts ≠ [] := by
  simp [parts]

theorem FieldPath.parts_injective :
    Function.Injective FieldPath.parts := by
  rintro ⟨segments, field⟩ ⟨others, other⟩ same
  obtain ⟨sameSegments, sameField⟩ := List.append_inj' same rfl
  cases sameSegments
  cases sameField
  rfl

namespace Clause

theorem column?_membershipCondition
    (clause : Clause)
    {test : Column → Bool → List Operand → Condition}
    (isAbout : ∀ column negated members, (test column negated members).column? = some column)
    (negated : Bool)
    (members : List Operand) :
    (clause.membershipCondition test negated members).column? =
      if members.isEmpty then none else some clause.column := by
  unfold membershipCondition
  split
  · rfl
  · exact isAbout _ _ _

/-- The condition of a clause is about its field, unless the clause has an empty set. -/
theorem column?_of_toSql
    {clause : Clause}
    {condition : Condition}
    (lowered : clause.toSql = .ok condition) :
    condition.column? = if clause.value.items.isEmpty then none else some clause.column := by
  rcases toSql_eq_ok lowered with ⟨negated, rfl | rfl⟩ | ⟨single, made⟩
  · exact clause.column?_membershipCondition (fun _ _ _ => rfl) negated clause.value.items
  · exact clause.column?_membershipCondition (fun _ _ _ => rfl) negated clause.value.items
  · have isAbout : condition.column? = some clause.column := by
      unfold scalarCondition at made
      dsimp only at made
      split at made <;> cases made <;> rfl
    cases value : clause.value with
    | scalar given =>
        exact isAbout
    | list members =>
        rw [value] at single
        cases single

/-- The tokens of a clause's condition name the clause's path, unless it has an empty set. -/
theorem subject_of_toSql
    {clause : Clause}
    {condition : Condition}
    (lowered : clause.toSql = .ok condition)
    (notEmpty : clause.value.items ≠ []) :
    subject condition.tokens = clause.path.parts := by
  have isAbout := column?_of_toSql lowered
  rw [if_neg (by simpa using notEmpty)] at isAbout
  exact Condition.subject_tokens isAbout clause.path.parts_ne_nil

/-- Conditions on an empty set are constants. -/
theorem toText_of_toSql_of_items_eq_nil
    {clause : Clause}
    {condition : Condition}
    (lowered : clause.toSql = .ok condition)
    (isEmpty : clause.value.items = []) :
    condition.toText = "1 = 1" ∨ condition.toText = "1 = 0" := by
  have noColumn := column?_of_toSql lowered
  rw [isEmpty] at noColumn
  cases condition with
  | constant truth =>
      cases truth
      · exact .inr rfl
      · exact .inl rfl
  | compare | like | member | element =>
      cases noColumn

/--
No path breaks out of its names. The condition of a clause is read as tokens with
a mark for every parameter, in which the names in the place of the column or
relation are the parts of the clause's path; only the conditions on empty sets
name nothing. Clauses with different paths therefore have different columns,
relations and conditions.
-/
theorem toSql_keeps_path_in_names
    (clause : Clause)
    (condition : Condition)
    (lowered : clause.toSql = .ok condition) :
    (∃ tokens,
      lex? condition.toText.toList = some tokens ∧
        tokens.count .mark = condition.parameters.length ∧
          (clause.value.items = [] →
            condition.toText = "1 = 1" ∨ condition.toText = "1 = 0") ∧
            (clause.value.items ≠ [] → subject tokens = clause.path.parts)) ∧
      ∀ other : Clause,
        other.path ≠ clause.path →
          other.column.toChars ≠ clause.column.toChars ∧
            qualified other.path.parts ≠ qualified clause.path.parts ∧
              ∀ otherCondition,
                other.toSql = .ok otherCondition →
                  clause.value.items ≠ [] →
                    other.value.items ≠ [] →
                      otherCondition.toText ≠ condition.toText := by
  refine ⟨⟨condition.tokens, ?_, condition.count_mark_tokens,
    toText_of_toSql_of_items_eq_nil lowered, subject_of_toSql lowered⟩, ?_⟩
  · rw [Condition.toText, String.toList_ofList]
    exact condition.lex?_toChars
  · intro other different
    have differentParts : other.path.parts ≠ clause.path.parts := fun sameParts =>
      different (FieldPath.parts_injective sameParts)
    refine ⟨fun same => differentParts ?_, fun same => differentParts ?_, ?_⟩
    · exact Column.parts_eq_of_toChars_eq other.path.parts_ne_nil clause.path.parts_ne_nil same
    · let otherPlain : Column := { parts := other.path.parts, lowered := false }
      let plain : Column := { parts := clause.path.parts, lowered := false }
      have samePlain : otherPlain.toChars = plain.toChars := same
      exact Column.parts_eq_of_toChars_eq other.path.parts_ne_nil clause.path.parts_ne_nil
        samePlain
    · intro otherCondition otherLowered notEmpty otherNotEmpty sameText
      have sameTokens : some otherCondition.tokens = some condition.tokens := by
        rw [← otherCondition.lex?_toChars, ← condition.lex?_toChars,
          String.ofList_injective sameText]
      rw [Option.some.injEq] at sameTokens
      rw [← subject_of_toSql otherLowered otherNotEmpty, sameTokens,
        subject_of_toSql lowered notEmpty] at differentParts
      exact differentParts rfl

/-- A path with dots, marks and quotation marks in its parts, and a test with two parameters. -/
theorem toSql_keeps_path_in_names_quotationMarks :
    ∃ tokens,
      lex? "LOWER(\"a.?\".\"we\"\"ird\") NOT IN (?, ?)".toList = some tokens ∧
        tokens.count .mark = 2 ∧
          subject tokens = ["a.?", "we\"ird"] := by
  let clause : Clause := {
    path := ⟨["a.?"], "we\"ird"⟩
    operator := .notIn
    value := .list [.ofText "A", .ofText "?"]
    caseSensitive := false
  }
  let condition : Condition :=
    .member { parts := ["a.?", "we\"ird"], lowered := true } true [.ofText "a", .ofText "?"]
  have lowered : clause.toSql = .ok condition := rfl
  obtain ⟨⟨tokens, isRead, marks, -, names⟩, -⟩ :=
    toSql_keeps_path_in_names clause condition lowered
  exact ⟨tokens, isRead, marks, names (by simp [clause, Operand.items])⟩

end Clause

end FieldSearch
