import FieldSearch.Declaration.Token

namespace FieldSearch.Declaration

/-!
# Reading tokens

A reading takes tokens from the front of a list, or says why they are not what
they have to be. The tokens of a group are read on their own (`Reading.within`).
-/

/-- Why tokens are not what they have to be. -/
inductive Malformation where
  /-- Something else is expected, maybe where the tokens end. -/
  | expected (what : String) (atEnd : Bool)
  /-- A keyword stands where a name is expected. -/
  | keyword (name : String)
  /-- A comparison is the first operand of another one. -/
  | chainedComparison
  /-- A cast is followed by what takes an operand before it. -/
  | followedCast (follower : String)
  /-- The value of an item has an attribute of its own. -/
  | valueAttribute
  /-- An attribute has no arguments. -/
  | noArguments
  /-- An attribute is given something else than arguments in brackets. -/
  | noBrackets
  deriving Repr, DecidableEq

/-- The wording of a malformation. -/
def Malformation.message : Malformation → String
  | expected what true => "unexpected end of input, expected " ++ what
  | expected what false => "expected " ++ what
  | keyword name => s!"expected identifier, found keyword \x60{name}\x60"
  | chainedComparison => "comparison operators cannot be chained"
  | followedCast follower => "casts cannot be followed by " ++ follower
  | valueAttribute => "unexpected attribute inside of attribute"
  | noArguments => "expected attribute arguments in parentheses: #[search(...)]"
  | noBrackets => "expected parentheses: #[search(...)]"

/-- A text as messages quote it. -/
def quoted (text : String) : String :=
  "\x60" ++ text ++ "\x60"

/-- The words that are not names unless they are marked. -/
def keywords : List String := [
  "_", "abstract", "as", "async", "await", "become", "box", "break", "const", "continue",
  "crate", "do", "dyn", "else", "enum", "extern", "false", "final", "fn", "for", "if", "impl",
  "in", "let", "loop", "macro", "match", "mod", "move", "mut", "override", "priv", "pub", "ref",
  "return", "Self", "self", "static", "struct", "super", "trait", "true", "try", "type",
  "typeof", "unsafe", "unsized", "use", "virtual", "where", "while", "yield"]

/-- The keywords that may be a part of a path. -/
def pathKeywords : List String := ["super", "self", "Self", "crate"]

/-- The first token is a name that is no keyword. -/
def startsWithOwnName : List Token → Bool
  | .atom (.name name) :: _ => !keywords.contains name
  | _ => false

/-- The first token is a keyword that may be a part of a path. -/
def startsWithPathKeyword (tokens : List Token) : Bool :=
  pathKeywords.any (startsWithName · tokens)

/-- The first token is a name or a keyword. -/
def startsWithWord : List Token → Bool
  | .atom (.name name) :: _ => name != "_"
  | _ => false

/-- The first token is a lifetime. -/
def startsWithLifetime (tokens : List Token) : Bool :=
  tokens.head?.any (·.isLifetime)

/-- The first token is a group. -/
def startsWithAnyGroup (tokens : List Token) : Bool :=
  Bracket.all.any (startsWithGroup · tokens)

/-- The first token is a literal; so are the two truth values. -/
def startsWithLiteral : List Token → Bool
  | .atom (.string _ _) :: _ => true
  | .atom (.literal _) :: _ => true
  | .atom (.name name) :: _ => name == "true" || name == "false"
  | _ => false

/-- A reading of tokens from the front. -/
abbrev Reading := StateT (List Token) (Except Malformation)

namespace Reading

/-- Whether the tokens that are left have a property. -/
def sees (property : List Token → Bool) : Reading Bool :=
  return property (← get)

/-- Leave out tokens. -/
def skip (count : Nat) : Reading Unit :=
  modify (·.drop count)

/-- Say that something else is expected at the next token. -/
def fail {α : Type} (what : String) : Reading α := do
  throw (.expected what (← get).isEmpty)

/-- Take an operator if it is next. -/
def skipOperator (operator : String) : Reading Bool := do
  match afterOperator? operator.toList (← get) with
  | some rest =>
      set rest
      return true
  | none => return false

/-- Take an operator, which has to be next. -/
def needOperator (operator : String) : Reading Unit := do
  if ← skipOperator operator then
    return ()
  else
    throw (.expected (quoted operator) false)

/-- Take a keyword if it is next. -/
def skipKeyword (word : String) : Reading Bool := do
  if ← sees (startsWithName word) then
    skip 1
    return true
  else
    return false

/-- Take a keyword, which has to be next. -/
def needKeyword (word : String) : Reading Unit := do
  if ← skipKeyword word then return () else fail (quoted word)

/-- Take a lifetime if it is next. -/
def skipLifetime : Reading Bool := do
  if ← sees startsWithLifetime then
    skip 1
    return true
  else
    return false

/-- The name of a group in messages. -/
def groupName : Bracket → String
  | .round => "parentheses"
  | .square => "square brackets"
  | .curly => "curly braces"

/-- Take a group in certain brackets, which has to be next: the tokens in it. -/
def needGroup (bracket : Bracket) : Reading (List Token) := do
  match ← get with
  | .group found content :: rest =>
      if found = bracket then
        set rest
        return content
      else
        fail (groupName bracket)
  | _ => fail (groupName bracket)

/-- Take a group, which has to be next. -/
def needAnyGroup : Reading Unit := do
  if ← sees startsWithAnyGroup then skip 1 else fail "delimiter"

/-- Take a name that is no keyword, which has to be next. -/
def needName : Reading String := do
  match ← get with
  | .atom (.name name) :: rest =>
      if keywords.contains name then
        throw (.keyword name)
      else
        set rest
        return name
  | _ => fail "identifier"

/-- Read the tokens of a group; what is left of them does not count. -/
def within {α : Type} (content : List Token) (reading : Reading α) : Reading α :=
  (reading.run' content : Except Malformation α)

/-- Read items up to the end, with a comma between each two, and a bound on their number. -/
def separated {α : Type} (item : Reading α) : Nat → Reading (List α)
  | 0 => return []
  | fuel + 1 => do
      if ← sees List.isEmpty then
        return []
      else
        let first ← item
        if ← sees List.isEmpty then
          return [first]
        else
          needOperator ","
          return first :: (← separated item fuel)

end Reading

end FieldSearch.Declaration
