import FieldSearch.Declaration.Reading

namespace FieldSearch.Declaration

/-!
# Reading past types and paths

Where a type ends (`Reading.skipType`), for the types in casts, arguments and
closures. The contents of brackets other than angle brackets are not looked at.
A path in an expression has arguments only after `::`, since a mark `<` without
it compares.
-/

/-- What is expected where a type has to start. -/
def typeStart : String :=
  "one of: " ++ ", ".intercalate [
    quoted "for", "parentheses", quoted "fn", quoted "unsafe", quoted "extern", "identifier",
    quoted "super", quoted "self", quoted "Self", quoted "crate", quoted "::", quoted "<",
    quoted "dyn", "square brackets", quoted "*", quoted "&", quoted "!", quoted "impl",
    quoted "_", "lifetime"]

/-- A path is next. -/
def startsPath (tokens : List Token) : Bool :=
  startsWithOwnName tokens || startsWithPathKeyword tokens || startsWith "::" tokens ||
    startsWith "<" tokens

/-- The marks that end the arguments in angle brackets, or the one before. -/
def endsArgument (tokens : List Token) : Bool :=
  startsWith "," tokens || startsWith ">" tokens

/-- A value is next where an argument is expected. -/
def startsWithValue (tokens : List Token) : Bool :=
  startsWithLiteral tokens || startsWithGroup .curly tokens ||
    (startsWith "-" tokens && startsWithLiteral (tokens.drop 1))

namespace Reading

/-- Read past a value that stands as an argument. -/
def skipValue : Reading Unit := do
  let _ ← skipOperator "-"
  skip 1

/-- Read past the lifetimes that a type is for, after the keyword. -/
def skipBinder : Reading Unit := do
  needOperator "<"
  modify fun tokens => (splitAngle tokens).2

mutual

/-- Read past a type, to which bounds may be added or not. -/
def skipType (hasBounds : Bool) : Nat → Reading Unit
  | 0 => fail typeStart
  | fuel + 1 => do
      let isBound ← skipKeyword "for"
      if isBound then skipBinder
      let tokens ← get
      if startsWithGroup .round tokens then
        skip 1
        if hasBounds && (← sees (startsWith "+")) then skipMoreBounds fuel
      else if ["fn", "unsafe", "extern"].any (startsWithName · tokens) then
        skipFunctionType fuel
      else if startsPath tokens then
        let isPlain ← skipPath false fuel
        if isPlain && (← sees fun tokens => startsWith "!" tokens && !startsWith "!=" tokens) then
          skip 1
          needAnyGroup
        else if hasBounds then
          skipMoreBounds fuel
      else if ["dyn", "impl"].any (startsWithName · tokens) then
        skip 1
        skipBound fuel
        if hasBounds then skipMoreBounds fuel
      else if startsWithGroup .square tokens then
        skip 1
      else if startsWith "*" tokens then
        skip 1
        if ← skipKeyword "const" then
          skipType false fuel
        else if ← skipKeyword "mut" then
          skipType false fuel
        else
          fail (quoted "const" ++ " or " ++ quoted "mut")
      else if startsWith "&" tokens then
        skip 1
        let _ ← skipLifetime
        let _ ← skipKeyword "mut"
        skipType false fuel
      else if startsWith "!" tokens && !startsWith "!=" tokens then
        skip 1
      else if startsWithName "_" tokens then
        skip 1
      else if startsWithLifetime tokens then
        skip 1
        skipMoreBounds fuel
      else
        fail typeStart

/-- Read past the type of a function, from its first keyword on. -/
def skipFunctionType : Nat → Reading Unit
  | 0 => fail typeStart
  | fuel + 1 => do
      let _ ← skipKeyword "unsafe"
      if ← skipKeyword "extern" then
        if ← sees startsWithLiteral then skip 1
      needKeyword "fn"
      let _ ← needGroup .round
      skipResult fuel

/-- Read past the type of a result, if there is one. -/
def skipResult : Nat → Reading Unit
  | 0 => return ()
  | fuel + 1 => do
      if ← skipOperator "->" then skipType false fuel

/-- Read past a bound. -/
def skipBound : Nat → Reading Unit
  | 0 => return ()
  | fuel + 1 => do
      let isDone ← skipLifetime
      if isDone then
        return ()
      else if ← sees (startsWithGroup .round) then
        skip 1
      else
        let _ ← skipOperator "?"
        if ← skipKeyword "for" then skipBinder
        let _ ← skipPath false fuel

/-- Read past bounds that are added to a type. -/
def skipMoreBounds : Nat → Reading Unit
  | 0 => return ()
  | fuel + 1 => do
      if ← skipOperator "+" then
        let hasMore ← sees fun tokens =>
          startsWithWord tokens || startsWith "::" tokens || startsWith "?" tokens ||
            startsWithLifetime tokens || startsWithGroup .round tokens
        if hasMore then
          skipBound fuel
          skipMoreBounds fuel

/-- Read past a path, in an expression or a type: whether it has names only. -/
def skipPath (isExpression : Bool) : Nat → Reading Bool
  | 0 => fail "identifier"
  | fuel + 1 => do
      if ← skipOperator "<" then
        skipType true fuel
        if ← skipKeyword "as" then
          let _ ← skipPath false fuel
        needOperator ">"
        needOperator "::"
        let _ ← skipPathParts isExpression fuel
        return false
      else
        let _ ← skipOperator "::"
        skipPathParts isExpression fuel

/-- Read past the parts of a path: whether they are names only. -/
def skipPathParts (isExpression : Bool) : Nat → Reading Bool
  | 0 => fail "identifier"
  | fuel + 1 => do
      let tokens ← get
      let isFixed := ["super", "self", "crate", "try"].any (startsWithName · tokens)
      if isFixed || startsWithName "Self" tokens then
        skip 1
      else
        let _ ← needName
      let isPlain ← if isFixed then pure true else skipPathArguments isExpression fuel
      let tokens ← get
      if startsWith "::" tokens && !startsWithGroup .round (tokens.drop 2) then
        skip 2
        return (← skipPathParts isExpression fuel) && isPlain
      else
        return isPlain

/-- Read past the arguments of a part of a path: whether there are none. -/
def skipPathArguments (isExpression : Bool) : Nat → Reading Bool
  | 0 => return true
  | fuel + 1 => do
      let tokens ← get
      if !isExpression && startsWith "<" tokens && !startsWith "<=" tokens then
        skip 1
        skipArguments fuel
        return false
      else if startsWith "::" tokens && startsWith "<" (tokens.drop 2) then
        skip 3
        skipArguments fuel
        return false
      else if !isExpression && startsWithGroup .round tokens then
        skip 1
        skipResult fuel
        return false
      else
        return true

/-- Read past arguments and the end of their angle brackets. -/
def skipArguments : Nat → Reading Unit
  | 0 => needOperator ">"
  | fuel + 1 => do
      if ← skipOperator ">" then
        return ()
      else
        skipArgument fuel
        if ← skipOperator ">" then
          return ()
        else
          needOperator ","
          skipArguments fuel

/-- Read past an argument: a lifetime, a value, a type or what a name is bound to. -/
def skipArgument : Nat → Reading Unit
  | 0 => return ()
  | fuel + 1 => do
      let tokens ← get
      if startsWithLifetime tokens && !startsWith "+" (tokens.drop 1) then
        skip 1
      else if startsWithValue tokens then
        skipValue
      else
        skipType true fuel
        if ← skipOperator "=" then
          if ← sees startsWithValue then skipValue else skipType true fuel
        else if ← skipOperator ":" then
          if !(← sees endsArgument) then
            skipBound fuel
            skipMoreBounds fuel

end

end Reading

end FieldSearch.Declaration
