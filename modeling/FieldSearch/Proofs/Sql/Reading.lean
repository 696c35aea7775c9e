import FieldSearch.Proofs.Sql.Quoting
import FieldSearch.Proofs.Sql.Semantics

namespace FieldSearch

open Outcomes

namespace Sql

/-!
# The meaning of SQL texts

A database is handed a text and values for its marks, and nothing else. The text is
read as tokens, the tokens are read as a condition in which every mark takes the next
value, and the condition has a truth value. The reader follows the standard: it has
its own table of comparisons, refuses a set without members, and takes a condition
only if all tokens and all values are used up. What is written for a condition is read
back as this condition, so the text and its values mean what the condition means.
-/

/-- The comparison that a symbol stands for. -/
def Comparison.ofSymbol? : String → Option Comparison
  | "=" => some .equal
  | "<>" => some .notEqual
  | ">" => some .greater
  | ">=" => some .greaterOrEqual
  | "<" => some .less
  | "<=" => some .lessOrEqual
  | _ => none

/-- The number that a word of digits stands for. -/
def numeral? (word : String) : Option Nat :=
  if word ≠ "" ∧ word.toList.all (·.isDigit) then
    some (Numeral.digitsToNat word.toList)
  else
    none

/-- The parts of a qualified name, and the tokens after it. -/
def readName? : List Token → Option (List String × List Token)
  | .name part :: .dot :: later =>
      (readName? later).map fun (parts, rest) => (part :: parts, rest)
  | .name part :: later => some ([part], later)
  | _ => none

/-- A column, possibly read in lower case, and the tokens after it. -/
def readColumn? : List Token → Option (Column × List Token)
  | .word "LOWER" :: .opening :: tokens =>
      match readName? tokens with
      | some (parts, .closing :: later) => some ({ parts := parts, lowered := true }, later)
      | _ => none
  | tokens =>
      (readName? tokens).map fun (parts, later) => ({ parts := parts, lowered := false }, later)

/-- The values of the marks up to a closing bracket, which take all values that are left. -/
def readMembers? : List Token → List Operand → Option (List Operand × List Token)
  | .mark :: .comma :: tokens, first :: others =>
      (readMembers? tokens others).map fun (members, later) => (first :: members, later)
  | .mark :: .closing :: later, [last] => some ([last], later)
  | _, _ => none

/-- A test of a column. -/
def readTest? (column : Column) : List Token → List Operand → Option Condition
  | [.operator symbol, .mark], [parameter] =>
      (Comparison.ofSymbol? symbol).map fun comparison => .compare column comparison parameter
  | [.word "LIKE", .mark, .word "ESCAPE", .literal "\\"], [.scalar (.text pattern)] =>
      some (.like column pattern)
  | .word "IN" :: .opening :: tokens, parameters =>
      match readMembers? tokens parameters with
      | some (members, []) => some (.member column false members)
      | _ => none
  | .word "NOT" :: .word "IN" :: .opening :: tokens, parameters =>
      match readMembers? tokens parameters with
      | some (members, []) => some (.member column true members)
      | _ => none
  | _, _ => none

/-- The set that the rows of a relation are looked for in. -/
def readRowTest?
    (negated : Bool)
    (relation : List String) :
    List Token →
    List Operand →
    Option Condition
  | .word "WHERE" :: tokens, parameters =>
      match readColumn? tokens with
      | some (element, .word "IN" :: .opening :: later) =>
          match readMembers? later parameters with
          | some (members, [.closing]) =>
              if element.parts = [elementColumn] then
                some (.element { parts := relation, lowered := element.lowered } negated members)
              else
                none
          | _ => none
      | _ => none
  | _, _ => none

/-- A search of a relation for rows. -/
def readRows? (negated : Bool) : List Token → List Operand → Option Condition
  | .opening :: .word "SELECT" :: .word "1" :: .word "FROM" :: tokens, parameters =>
      match readName? tokens with
      | some (relation, later) => readRowTest? negated relation later parameters
      | none => none
  | _, _ => none

/-- The condition that tokens stand for, with values for their marks. -/
def read? : List Token → List Operand → Option Condition
  | [.word left, .operator symbol, .word right], [] => do
      let comparison ← Comparison.ofSymbol? symbol
      return .constant (comparison.test (compare (← numeral? left) (← numeral? right)))
  | .word "EXISTS" :: tokens, parameters => readRows? false tokens parameters
  | .word "NOT" :: .word "EXISTS" :: tokens, parameters => readRows? true tokens parameters
  | tokens, parameters =>
      match readColumn? tokens with
      | some (column, later) => readTest? column later parameters
      | none => none

/-- The truth value of a SQL text with its values; there is none if it is no condition. -/
def Fragment.evaluate? (store : Store) (fragment : Fragment) : Option Truth := do
  let tokens ← lex? fragment.text.toList
  let condition ← read? tokens fragment.parameters
  return condition.evaluate store

/-- A condition that can be written: its column has a name, and its set has members. -/
def Condition.IsWritable : Condition → Prop
  | constant _ => True
  | compare column _ _ => column.parts ≠ []
  | like column _ => column.parts ≠ []
  | member column _ members => column.parts ≠ [] ∧ members ≠ []
  | element relation _ members => relation.parts ≠ [] ∧ members ≠ []

/-! Every piece of a condition is read back from its tokens. -/

theorem Comparison.ofSymbol?_symbol (comparison : Comparison) :
    ofSymbol? (String.ofList comparison.symbol) = some comparison := by
  cases comparison <;> rfl

theorem readName?_nameTokens
    {parts : List String}
    (nonempty : parts ≠ [])
    {later : List Token}
    (ends : later.head? ≠ some .dot) :
    readName? (nameTokens parts ++ later) = some (parts, later) := by
  induction parts with
  | nil =>
      exact absurd rfl nonempty
  | cons first rest inductionHypothesis =>
      cases rest with
      | nil =>
          cases later with
          | nil =>
              rfl
          | cons token others =>
              cases token <;> first | rfl | exact absurd rfl ends
      | cons second others =>
          have names := inductionHypothesis (by simp)
          simp only [nameTokens, List.map_cons] at names
          simp only [nameTokens, List.map_cons, List.intersperse_cons_cons, List.cons_append,
            readName?, names, Option.map_some]

theorem readColumn?_loweredTokens
    (lowered : Bool)
    {parts : List String}
    (nonempty : parts ≠ [])
    {later : List Token}
    (ends : later.head? ≠ some .dot) :
    readColumn? (loweredTokens lowered (nameTokens parts) ++ later) =
      some ({ parts := parts, lowered := lowered }, later) := by
  cases lowered with
  | true =>
      have inside := readName?_nameTokens nonempty (show (.closing :: later).head? ≠ _ by simp)
      simp [loweredTokens, readColumn?, inside]
  | false =>
      obtain ⟨first, rest, rfl⟩ := List.exists_cons_of_ne_nil nonempty
      have names := readName?_nameTokens nonempty ends
      cases rest <;> simp_all [loweredTokens, nameTokens, readColumn?]

theorem readMembers?_replicate
    {members : List Operand}
    (nonempty : members ≠ [])
    (later : List Token) :
    readMembers?
        ((List.replicate members.length .mark).intersperse .comma ++ .closing :: later) members =
      some (members, later) := by
  induction members with
  | nil =>
      exact absurd rfl nonempty
  | cons first others inductionHypothesis =>
      cases others with
      | nil =>
          rfl
      | cons second rest =>
          have marks := inductionHypothesis (by simp)
          simp only [List.length_cons, List.replicate_succ] at marks
          simp only [List.length_cons, List.replicate_succ, List.intersperse_cons_cons,
            List.cons_append, readMembers?, marks, Option.map_some]

/-- What begins with a column is a test of the column. -/
theorem read?_column
    {column : Column}
    (nonempty : column.parts ≠ [])
    {later : List Token}
    (ends : later.head? ≠ some .dot)
    (parameters : List Operand) :
    read? (column.tokens ++ later) parameters = readTest? column later parameters := by
  have isColumn := readColumn?_loweredTokens column.lowered nonempty ends
  have noKeyword :
      read? (column.tokens ++ later) parameters =
        match readColumn? (column.tokens ++ later) with
        | some (found, rest) => readTest? found rest parameters
        | none => none := by
    obtain ⟨parts, lowered⟩ := column
    cases lowered with
    | true =>
        simp [Column.tokens, loweredTokens, read?]
    | false =>
        obtain ⟨first, rest, rfl⟩ := List.exists_cons_of_ne_nil nonempty
        cases rest <;> simp [Column.tokens, loweredTokens, nameTokens, read?]
  rw [noKeyword, Column.tokens, isColumn]

theorem readTest?_member
    (column : Column)
    (negated : Bool)
    {members : List Operand}
    (nonempty : members ≠ []) :
    readTest? column (keywordTokens negated "IN" ++ markTokens members.length) members =
      some (.member column negated members) := by
  have marks := readMembers?_replicate nonempty []
  cases negated <;> simp [keywordTokens, markTokens, readTest?, marks]

theorem readRowTest?_tokens
    (negated : Bool)
    (relation : Column)
    {members : List Operand}
    (nonempty : members ≠ []) :
    readRowTest? negated relation.parts
        (.word "WHERE" :: (loweredTokens relation.lowered [.name elementColumn] ++
          (.word "IN" :: (markTokens members.length ++ [.closing])))) members =
      some (.element relation negated members) := by
  have marks := readMembers?_replicate nonempty [.closing]
  have value := readColumn?_loweredTokens relation.lowered
    (show [elementColumn] ≠ [] by simp)
    (show (Token.word "IN" :: (markTokens members.length ++ [.closing])).head? ≠ _ by simp)
  have tokens : nameTokens [elementColumn] = [.name elementColumn] := rfl
  rw [tokens] at value
  rw [readRowTest?, value]
  simp [markTokens, marks]

/-- What is written for a condition is read back as the condition. -/
theorem Condition.read?_tokens
    {condition : Condition}
    (writable : condition.IsWritable) :
    read? condition.tokens condition.parameters = some condition := by
  cases condition with
  | constant truth =>
      cases truth <;> rfl
  | compare column comparison parameter =>
      rw [tokens, read?_column writable (by simp)]
      simp [readTest?, parameters, comparison.ofSymbol?_symbol]
  | like column pattern =>
      rw [tokens, read?_column writable (by simp)]
      rfl
  | member column negated members =>
      have ends :
          (keywordTokens negated "IN" ++ markTokens members.length).head? ≠ some .dot := by
        cases negated <;> simp [keywordTokens]
      rw [tokens, List.append_assoc, read?_column writable.1 ends]
      exact readTest?_member column negated writable.2
  | element relation negated members =>
      have rows := readRowTest?_tokens negated relation writable.2
      have names := readName?_nameTokens writable.1
        (show (Token.word "WHERE" :: (loweredTokens relation.lowered [.name elementColumn] ++
          (.word "IN" :: (markTokens members.length ++ [.closing])))).head? ≠ _ by simp)
      cases negated <;>
        simp [tokens, keywordTokens, read?, readRows?, parameters, names, rows]

/-- The text of a condition, with its parameters, has the truth value of the condition. -/
theorem Condition.evaluate?_toFragment
    {condition : Condition}
    (writable : condition.IsWritable)
    (store : Store) :
    condition.toFragment.evaluate? store = some (condition.evaluate store) := by
  have isText : condition.toFragment.text.toList = condition.toChars := String.toList_ofList
  have isRead : read? condition.tokens condition.toFragment.parameters = some condition :=
    read?_tokens writable
  rw [Fragment.evaluate?, isText, condition.lex?_toChars]
  simp [isRead]

end Sql

open Sql

namespace Clause

/-- A set without members is never written. -/
theorem isWritable_membershipCondition
    (clause : Clause)
    {test : Column → Bool → List Operand → Condition}
    (writable :
      ∀ negated members, members ≠ [] → (test clause.column negated members).IsWritable)
    (negated : Bool)
    (members : List Operand) :
    (clause.membershipCondition test negated members).IsWritable := by
  unfold membershipCondition
  split
  · trivial
  · next nonempty =>
      exact writable _ _ (by simpa using nonempty)

theorem isWritable_of_toSql
    {clause : Clause}
    {condition : Condition}
    (lowered : clause.toSql = .ok condition) :
    condition.IsWritable := by
  have named : clause.column.parts ≠ [] := clause.path.parts_ne_nil
  rcases toSql_eq_ok lowered with ⟨negated, rfl | rfl⟩ | ⟨-, made⟩
  · refine clause.isWritable_membershipCondition ?_ negated clause.value.items
    exact fun _ _ nonempty => ⟨named, nonempty⟩
  · refine clause.isWritable_membershipCondition ?_ negated clause.value.items
    exact fun _ _ nonempty => ⟨named, nonempty⟩
  · unfold scalarCondition at made
    dsimp only at made
    split at made <;> cases made <;> exact named

theorem toFragment_eq_ok
    {clause : Clause}
    {fragment : Fragment} :
    clause.toFragment = .ok fragment ↔
      ∃ condition, clause.toSql = .ok condition ∧ condition.toFragment = fragment :=
  map_eq_ok

/-- What a clause is written as means what the condition of the clause means. -/
theorem evaluate?_of_toSql
    {clause : Clause}
    {condition : Condition}
    (lowered : clause.toSql = .ok condition)
    (store : Store) :
    condition.toFragment.evaluate? store = some (condition.evaluate store) :=
  Condition.evaluate?_toFragment (isWritable_of_toSql lowered) store

end Clause

end FieldSearch
