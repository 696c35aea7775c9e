import FieldSearch.Declaration.TypeReading

namespace FieldSearch.Declaration

/-!
# Expressions

The value of an option is an expression, of which only string literals mean
something. Others are read to find where they end (`Reading.expression`), by the
precedence of their operators. The contents of curly brackets are not looked at.
-/

/-- What is known of an expression, as far as it matters to what may follow it. -/
inductive ExpressionForm where
  | string (value : String)
  | range
  | comparison
  | other
  deriving Repr, DecidableEq

/-- How tightly operators bind, the loosest first. -/
inductive Precedence where
  | assign
  | range
  | or
  | and
  | binding
  | compare
  | bitOr
  | bitXor
  | bitAnd
  | shift
  | sum
  | product
  | cast
  deriving Repr, DecidableEq

namespace Precedence

/-- Every precedence, the loosest first. -/
def all : List Precedence :=
  [assign, range, or, and, binding, compare, bitOr, bitXor, bitAnd, shift, sum, product, cast]

/-- The place of a precedence, from one on. -/
def rank (precedence : Precedence) : Nat :=
  all.idxOf precedence + 1

end Precedence

/-- The operators between two operands; one that starts like another stands after it. -/
def binaryOperators : List (String × Precedence) :=
  ["+=", "-=", "*=", "/=", "%=", "^=", "&=", "|=", "<<=", ">>="].map (·, .assign) ++
    [("&&", .and), ("||", .or), ("<<", .shift), (">>", .shift)] ++
    ["==", "<=", "!=", ">="].map (·, .compare) ++
    [("+", .sum), ("-", .sum), ("*", .product), ("/", .product), ("%", .product),
      ("^", .bitXor), ("&", .bitAnd), ("|", .bitOr), ("<", .compare), (">", .compare)]

/-- The operator between two operands that is next, with its precedence. -/
def binaryOperator? (tokens : List Token) : Option (String × Precedence) :=
  binaryOperators.find? fun entry => startsWith entry.1 tokens

/-- An assignment is next. -/
def startsAssignment (tokens : List Token) : Bool :=
  startsWith "=" tokens && !startsWith "=>" tokens

/-- The rank of whatever continues an expression, zero if nothing does. -/
def nextRank (tokens : List Token) : Nat :=
  match binaryOperator? tokens with
  | some (_, precedence) => precedence.rank
  | none =>
      if startsAssignment tokens then
        Precedence.assign.rank
      else if startsWith ".." tokens then
        Precedence.range.rank
      else if startsWithName "as" tokens then
        Precedence.cast.rank
      else
        0

/-- An access to a part of an operand is next. -/
def startsAccess (tokens : List Token) : Bool :=
  startsWith "." tokens && !startsWith ".." tokens

/-- What cannot follow a cast, if it is next. -/
def followsOperand? (tokens : List Token) : Option String :=
  if startsAccess tokens then
    let rest := tokens.drop 1
    if startsWithName "await" rest then
      some (quoted ".await")
    else if startsWithOwnName rest &&
        (startsWithGroup .round (rest.drop 1) || startsWith "::" (rest.drop 1)) then
      some "a method call"
    else
      some "a field access"
  else if startsWith "?" tokens then
    some (quoted "?")
  else if startsWithGroup .square tokens then
    some "indexing"
  else if startsWithGroup .round tokens then
    some "a function call"
  else
    none

/-- A range that has no end ends here. -/
def endsRange (hasStruct : Bool) (tokens : List Token) : Bool :=
  tokens.isEmpty || startsAccess tokens || (!hasStruct && startsWithGroup .curly tokens) ||
    [",", ";", "?", "=>", "=", "+", "/", "%", "^", ">", "<=", "!=", "-=", "*=", "&=", "|=",
      "<<="].any (startsWith · tokens) ||
    startsWithName "as" tokens

/-- An expression may be next. -/
def startsExpression (tokens : List Token) : Bool :=
  (startsWithWord tokens && !startsWithName "as" tokens) || startsWithAnyGroup tokens ||
    startsWithLiteral tokens || startsWithLifetime tokens ||
    (startsWith "!" tokens && !startsWith "!=" tokens) ||
    (startsWith "-" tokens && !startsWith "-=" tokens && !startsWith "->" tokens) ||
    (startsWith "*" tokens && !startsWith "*=" tokens) ||
    (startsWith "|" tokens && !startsWith "|=" tokens) ||
    (startsWith "&" tokens && !startsWith "&=" tokens) ||
    (startsWith "<" tokens && !startsWith "<=" tokens && !startsWith "<<=" tokens) ||
    ["..", "::", "#"].any (startsWith · tokens)

/-- A closure is next. -/
def startsClosure (tokens : List Token) : Bool :=
  let rest := tokens.drop 1
  startsWith "|" tokens || ["move", "static"].any (startsWithName · tokens) ||
    (startsWithName "for" tokens && startsWith "<" rest &&
      (startsWithLifetime (rest.drop 1) || startsWith ">" (rest.drop 1))) ||
    (startsWithName "const" tokens && !startsWithGroup .curly rest) ||
    (startsWithName "async" tokens && (startsWith "|" rest || startsWithName "move" rest))

/-- A block is next that is run later. -/
def startsAsyncBlock (tokens : List Token) : Bool :=
  let rest := tokens.drop 1
  startsWithName "async" tokens &&
    (startsWithGroup .curly rest ||
      (startsWithName "move" rest && startsWithGroup .curly (rest.drop 1)))

/-- What is expected where a pattern has to start. -/
def patternStart : String :=
  "one of: " ++ ", ".intercalate [
    "identifier", quoted "::", quoted "<", quoted "_", "literal", quoted "const", quoted "ref",
    quoted "mut", quoted "&", "parentheses", "square brackets", quoted ".."]

/-- A pattern that is a path is next. -/
def startsPatternPath (tokens : List Token) : Bool :=
  let rest := tokens.drop 1
  (startsWithOwnName tokens &&
    (["::", "!", ".."].any (startsWith · rest) || startsWithGroup .curly rest ||
      startsWithGroup .round rest)) ||
    (startsWithName "self" tokens && startsWith "::" rest) ||
    startsWith "::" tokens || startsWith "<" tokens ||
    ["Self", "super", "crate"].any (startsWithName · tokens)

namespace Reading

/-- Read past the end of a range of patterns, if a range is next. -/
def skipPatternRange (fuel : Nat) : Reading Unit := do
  if ← skipOperator ".." then
    let _ ← skipOperator "="
    let tokens ← get
    if startsWithValue tokens then
      skipValue
    else if startsPath tokens then
      let _ ← skipPath true fuel

mutual

/-- Read past a pattern without alternatives. -/
def skipPattern : Nat → Reading Unit
  | 0 => fail patternStart
  | fuel + 1 => do
      let tokens ← get
      if startsPatternPath tokens then
        let _ ← skipPath true fuel
        if ← skipOperator "!" then
          needAnyGroup
        else if ← sees fun next => startsWithGroup .curly next || startsWithGroup .round next then
          skip 1
        else
          skipPatternRange fuel
      else if startsWithName "_" tokens then
        skip 1
      else if startsWithName "box" tokens then
        skip 1
        skipPattern fuel
      else if startsWithValue tokens then
        skipValue
        skipPatternRange fuel
      else if startsWithName "const" tokens then
        skip 1
        let _ ← needGroup .curly
      else if startsWithOwnName tokens || ["ref", "mut", "self"].any (startsWithName · tokens) then
        let _ ← skipKeyword "ref"
        let _ ← skipKeyword "mut"
        let isOwner ← skipKeyword "self"
        if !isOwner then
          let _ ← needName
        if ← skipOperator "@" then skipPattern fuel
      else if startsWith "&" tokens then
        skip 1
        let _ ← skipKeyword "mut"
        skipPattern fuel
      else if startsWithGroup .round tokens || startsWithGroup .square tokens then
        skip 1
      else if startsWith ".." tokens && !startsWith "..." tokens then
        skipPatternRange fuel
      else
        fail patternStart

/-- Read past a pattern that may have alternatives. -/
def skipPatterns : Nat → Reading Unit
  | 0 => fail patternStart
  | fuel + 1 => do
      skipPattern fuel
      let hasMore ← sees fun tokens =>
        startsWith "|" tokens && !startsWith "||" tokens && !startsWith "|=" tokens
      if hasMore then
        skip 1
        skipPatterns fuel

end

/-- Read past the attributes of an operand. -/
def skipAttributes : Nat → Reading Unit
  | 0 => return ()
  | fuel + 1 => do
      if ← skipOperator "#" then
        let _ ← needGroup .square
        skipAttributes fuel

mutual

/-- Read an expression, which may start with the fields of a struct or not. -/
def expression (hasStruct : Bool) : Nat → Reading ExpressionForm
  | 0 => fail "an expression"
  | fuel + 1 => do
      let first ← operand hasStruct fuel
      operations hasStruct 0 first fuel

/-- Read on after an operand while operators bind as tightly as a rank. -/
def operations (hasStruct : Bool) (base : Nat) (left : ExpressionForm) :
    Nat → Reading ExpressionForm
  | 0 => return left
  | fuel + 1 => do
      let tokens ← get
      if left = .range then
        return left
      else
        match binaryOperator? tokens with
        | some (operator, precedence) =>
            if precedence.rank < base then
              return left
            else if precedence = .compare ∧ left = .comparison then
              throw .chainedComparison
            else
              needOperator operator
              secondOperand hasStruct precedence fuel
              let form := if precedence = .compare then .comparison else .other
              operations hasStruct base form fuel
        | none =>
            if nextRank tokens = 0 ∨ nextRank tokens < base then
              return left
            else if startsAssignment tokens then
              skip 1
              secondOperand hasStruct .assign fuel
              operations hasStruct base .other fuel
            else if startsWith ".." tokens then
              rangeEnd hasStruct fuel
              operations hasStruct base .range fuel
            else
              skip 1
              skipType false fuel
              match followsOperand? (← get) with
              | some follower => throw (.followedCast follower)
              | none => operations hasStruct base .other fuel

/-- Read the operand after an operator, with what binds more tightly. -/
def secondOperand (hasStruct : Bool) (precedence : Precedence) : Nat → Reading Unit
  | 0 => fail "an expression"
  | fuel + 1 => do
      let first ← operand hasStruct fuel
      tighterOperations hasStruct precedence first fuel

/-- Read on after an operand while operators bind more tightly than the one before it. -/
def tighterOperations (hasStruct : Bool) (precedence : Precedence) (left : ExpressionForm) :
    Nat → Reading Unit
  | 0 => return ()
  | fuel + 1 => do
      let tokens ← get
      let next := nextRank tokens
      if precedence.rank < next ∨ (next = precedence.rank ∧ precedence = .assign) then
        let form ← operations hasStruct next left fuel
        if (← get).length < tokens.length then
          tighterOperations hasStruct precedence form fuel

/-- Read a range from its mark on. -/
def rangeEnd (hasStruct : Bool) : Nat → Reading Unit
  | 0 => return ()
  | fuel + 1 => do
      let isClosed ← skipOperator "..="
      if !isClosed then
        if ← sees (startsWith "...") then
          fail (quoted ".." ++ " or " ++ quoted "..=")
        needOperator ".."
      if isClosed || !(← sees (endsRange hasStruct)) then
        secondOperand hasStruct .range fuel

/-- Read an operand with the operators before and after it. -/
def operand (hasStruct : Bool) : Nat → Reading ExpressionForm
  | 0 => fail "an expression"
  | fuel + 1 => do
      skipAttributes fuel
      let tokens ← get
      if startsWith "&" tokens then
        skip 1
        let isRaw ← sees fun next =>
          startsWithName "raw" next &&
            (startsWithName "mut" (next.drop 1) || startsWithName "const" (next.drop 1))
        if isRaw then
          skip 2
        else
          let _ ← skipKeyword "mut"
        let _ ← operand hasStruct fuel
        return .other
      else if ["*", "!", "-"].any (startsWith · tokens) then
        skip 1
        let _ ← operand hasStruct fuel
        return .other
      else
        let form ← simple hasStruct fuel
        trailers form fuel

/-- Read what takes an operand before it: calls, indices and accesses. -/
def trailers (form : ExpressionForm) : Nat → Reading ExpressionForm
  | 0 => return form
  | fuel + 1 => do
      let tokens ← get
      if startsWithGroup .round tokens then
        let content ← needGroup .round
        let _ ← within content (separated (expression true fuel) fuel)
        trailers .other fuel
      else if startsWithGroup .square tokens then
        let content ← needGroup .square
        let _ ← within content (expression true fuel)
        trailers .other fuel
      else if form = .range then
        return form
      else if startsAccess tokens then
        skip 1
        access fuel
        trailers .other fuel
      else if startsWith "?" tokens then
        skip 1
        trailers .other fuel
      else
        return form

/-- Read the part of an operand that is accessed, or called. -/
def access : Nat → Reading Unit
  | 0 => return ()
  | fuel + 1 => do
      let tokens ← get
      match tokens with
      | .atom (.literal source) :: _ =>
          if source.toList.head?.any Char.isDigit then
            skip 1
          else
            fail "identifier or integer"
      | _ =>
          if startsWithName "await" tokens then
            skip 1
          else if startsWithOwnName tokens then
            skip 1
            if ← skipOperator "::" then
              needOperator "<"
              skipArguments fuel
              let content ← needGroup .round
              let _ ← within content (separated (expression true fuel) fuel)
          else
            fail "identifier or integer"

/-- Read an operand without operators. -/
def simple (hasStruct : Bool) : Nat → Reading ExpressionForm
  | 0 => fail "an expression"
  | fuel + 1 => do
      let tokens ← get
      let rest := tokens.drop 1
      match tokens with
      | .atom (.string value _) :: _ =>
          skip 1
          return .string value
      | _ =>
          if startsWithLiteral tokens then
            skip 1
          else if startsAsyncBlock tokens then
            skip 1
            let _ ← skipKeyword "move"
            skip 1
          else if startsWithName "try" tokens && startsWithGroup .curly rest then
            skip 2
          else if startsClosure tokens then
            closure hasStruct fuel
          else if startsPath tokens ||
              (startsWithName "try" tokens && (startsWith "!" rest || startsWith "::" rest)) then
            pathOperand hasStruct fuel
          else if startsWithGroup .round tokens then
            let content ← needGroup .round
            let _ ← within content (separated (expression true fuel) fuel)
          else if startsWithGroup .square tokens then
            let content ← needGroup .square
            within content (elements fuel)
          else if startsWithGroup .curly tokens || startsWithName "_" tokens then
            skip 1
          else if startsWith ".." tokens then
            rangeEnd hasStruct fuel
          else
            keywordOperand hasStruct fuel
          return if startsWith ".." tokens then .range else .other

/-- Read the elements of an array. -/
def elements : Nat → Reading Unit
  | 0 => return ()
  | fuel + 1 => do
      if !(← sees List.isEmpty) then
        let _ ← expression true fuel
        if ← skipOperator ";" then
          let _ ← expression true fuel
        else if ← skipOperator "," then
          let _ ← separated (expression true fuel) fuel
        else if !(← sees List.isEmpty) then
          fail (quoted "," ++ " or " ++ quoted ";")

/-- Read a path, what it expands to or the struct that it makes. -/
def pathOperand (hasStruct : Bool) : Nat → Reading Unit
  | 0 => return ()
  | fuel + 1 => do
      let isPlain ← skipPath true fuel
      if isPlain && (← sees fun next => startsWith "!" next && !startsWith "!=" next) then
        skip 1
        needAnyGroup
      else if hasStruct && (← sees (startsWithGroup .curly)) then
        skip 1

/-- Read a closure. -/
def closure (hasStruct : Bool) : Nat → Reading Unit
  | 0 => return ()
  | fuel + 1 => do
      if ← skipKeyword "for" then skipBinder
      for word in ["const", "static", "async", "move"] do
        let _ ← skipKeyword word
      needOperator "|"
      closureInputs fuel
      if ← skipOperator "->" then
        skipType true fuel
        let _ ← needGroup .curly
      else
        let _ ← expression hasStruct fuel

/-- Read the inputs of a closure, and the mark after them. -/
def closureInputs : Nat → Reading Unit
  | 0 => needOperator "|"
  | fuel + 1 => do
      if ← skipOperator "|" then
        return ()
      else
        skipAttributes fuel
        skipPattern fuel
        if ← skipOperator ":" then skipType true fuel
        if ← skipOperator "|" then
          return ()
        else
          needOperator ","
          closureInputs fuel

/-- Read an operand that starts with a keyword or a label. -/
def keywordOperand (hasStruct : Bool) : Nat → Reading Unit
  | 0 => fail "an expression"
  | fuel + 1 => do
      if ← skipKeyword "break" then
        let _ ← skipLifetime
        let tokens ← get
        if startsExpression tokens && (hasStruct || !startsWithGroup .curly tokens) then
          let _ ← expression hasStruct fuel
      else if ← skipKeyword "continue" then
        let _ ← skipLifetime
      else if ← skipKeyword "return" then
        if ← sees startsExpression then
          let _ ← expression true fuel
      else if ← skipKeyword "yield" then
        if ← sees startsExpression then
          let _ ← expression true fuel
      else if ← skipKeyword "become" then
        let _ ← expression true fuel
      else if ← skipKeyword "let" then
        let _ ← skipOperator "|"
        skipPatterns fuel
        needOperator "="
        let first ← operand hasStruct fuel
        let _ ← operations hasStruct Precedence.compare.rank first fuel
      else if ← skipKeyword "if" then
        conditional fuel
      else if ← skipKeyword "match" then
        let _ ← expression false fuel
        let _ ← needGroup .curly
      else if ← skipKeyword "unsafe" then
        let _ ← needGroup .curly
      else if ← skipKeyword "const" then
        let _ ← needGroup .curly
      else if ← skipLifetime then
        needOperator ":"
        if ← sees (startsWithGroup .curly) then
          skip 1
        else
          repetition "loop or block expression" fuel
      else
        repetition "an expression" fuel

/-- Read a conditional expression after its first keyword. -/
def conditional : Nat → Reading Unit
  | 0 => return ()
  | fuel + 1 => do
      let _ ← expression false fuel
      let _ ← needGroup .curly
      if ← skipKeyword "else" then
        if ← skipKeyword "if" then
          conditional fuel
        else if ← sees (startsWithGroup .curly) then
          skip 1
        else
          fail (quoted "if" ++ " or curly braces")

/-- Read a loop, where something is expected. -/
def repetition (what : String) : Nat → Reading Unit
  | 0 => fail what
  | fuel + 1 => do
      if ← skipKeyword "loop" then
        let _ ← needGroup .curly
      else if ← skipKeyword "while" then
        let _ ← expression false fuel
        let _ ← needGroup .curly
      else if ← skipKeyword "for" then
        let _ ← skipOperator "|"
        skipPatterns fuel
        needKeyword "in"
        let _ ← expression false fuel
        let _ ← needGroup .curly
      else
        fail what

end

end Reading

/-- The value of an item: a string literal or any other expression. -/
inductive ItemValue where
  | string (value : String)
  | other
  deriving Repr, DecidableEq

/-- The value that an expression denotes. -/
def ExpressionForm.value : ExpressionForm → ItemValue
  | string value => .string value
  | _ => .other

end FieldSearch.Declaration
