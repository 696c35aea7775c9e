import FieldSearch.Declaration.Arguments
import FieldSearch.Declaration.TypeReading
import FieldSearch.Schema
import FieldSearch.Text.Blank

namespace FieldSearch.Declaration

/-!
# Declared types

What the text of a field's type says about storage: whether the value may be
missing, the container it is stored in, and the type of the elements. Only the
name of a type counts, whatever module it is taken from.
-/

/-- A named type: its own name and its arguments, if it has angle brackets. -/
structure NamedType where
  name : String
  arguments : Option (List Argument)
  deriving Repr

/-- The last part of a path, from a name on. -/
def lastPart? : Nat → List Token → Option NamedType
  | fuel + 1, .atom (.name name) :: rest =>
      let isMarked := startsWith "::" rest && startsWith "<" (rest.drop 2)
      let rest := if isMarked then rest.drop 2 else rest
      if startsWith "<" rest then
        let (inside, after) := splitAngle (rest.drop 1)
        if startsWith "::" after then
          lastPart? fuel (after.drop 2)
        else
          some { name := name, arguments := some (Argument.listOf inside) }
      else if startsWith "::" rest && !startsWithGroup .round (rest.drop 2) then
        lastPart? fuel (rest.drop 2)
      else
        some { name := name, arguments := none }
  | _, _ => none

/-- Tokens are a path and nothing else. -/
def isPath (tokens : List Token) : Bool :=
  startsPath tokens &&
    match (Reading.skipPath false (8 * (Token.sizes tokens + 1))).run tokens with
    | .ok (_, rest) => rest.isEmpty
    | .error _ => false

/-- The path without a mark or a type at its start. -/
def withoutRoot (tokens : List Token) : List Token :=
  if startsWith "::" tokens then
    tokens.drop 2
  else if startsWith "<" tokens then
    (splitAngle (tokens.drop 1)).2.drop 2
  else
    tokens

/-- The named type that a type is, if it is one. -/
def namedType? (tokens : List Token) : Option NamedType :=
  if isPath tokens then lastPart? tokens.length (withoutRoot tokens) else none

/-- Tokens after a name that follow its own arguments, if it has any. -/
def afterArguments (tokens : List Token) : List Token :=
  if startsWith "<" tokens then (splitAngle (tokens.drop 1)).2 else tokens

/-- Tokens after a name that say what it stands for, or bound it. -/
def namesPart (tokens : List Token) : Bool :=
  let next := afterArguments tokens
  startsWith "=" next || (startsWith ":" next && !startsWith "::" next)

/-- The argument is a type, and not a lifetime, a value or a named part. -/
def Argument.isType (argument : Argument) : Bool :=
  !argument.isLifetime && !startsWithValue argument.content &&
    !(startsWithOwnName argument.content && namesPart (argument.content.drop 1))

/-- The first type among the arguments of a type with one of the given names. -/
def argument? (names : List String) (tokens : List Token) : Option (List Token) := do
  let named ← namedType? tokens
  if names.contains named.name then
    ((← named.arguments).find? (·.isType)).map (·.content)
  else
    none

/-- Arguments follow a name at the start of tokens, in an expression or a type. -/
def startsArguments (isExpression : Bool) (tokens : List Token) : Bool :=
  startsWith "::" tokens && startsWith "<" (tokens.drop 2) ||
    (!isExpression && startsWith "<" tokens && !startsWith "<=" tokens)

/-- Arrange the arguments in tokens at every level, with a bound on their number. -/
def arrangeTokens (isExpression : Bool) : Nat → List Token → List Token
  | 0, tokens => tokens
  | _ + 1, [] => []
  | fuel + 1, .group .square content :: rest =>
      let parts := splitAtMark ';' content
      let first := arrangeTokens isExpression fuel (parts.headD [])
      let others := parts.tail.flatMap fun part =>
        .atom (.mark ';' false) :: arrangeTokens true fuel part
      .group .square (first ++ others) :: arrangeTokens isExpression fuel rest
  | fuel + 1, .group bracket content :: rest =>
      let isInner := isExpression || bracket == .curly
      .group bracket (arrangeTokens isInner fuel content) :: arrangeTokens isExpression fuel rest
  | fuel + 1, token :: rest =>
      let isName := startsWithOwnName [token] || token.isName "Self"
      if isName && startsArguments isExpression rest then
        let count := if startsWith "::" rest then 3 else 1
        let (inside, after) := splitAngle (rest.drop count)
        let arguments := (Argument.arrange (Argument.listOf inside)).map fun argument =>
          { argument with content := arrangeTokens false fuel argument.content }
        token :: rest.take count ++ Argument.join arguments ++ .atom (.mark '>' false) ::
          arrangeTokens isExpression fuel after
      else
        token :: arrangeTokens isExpression fuel rest

/-- How a field is stored. -/
structure Storage where
  optional : Bool
  container : Container
  element : List Token
  deriving Repr

namespace Storage

/-- Names of types that hold a value or nothing. -/
def optionNames : List String := ["Option"]

/-- Names of types that hold a sequence. -/
def sequenceNames : List String := ["Vec", "VecDeque", "LinkedList"]

/-- Names of types that hold a set. -/
def setNames : List String := ["HashSet", "BTreeSet"]

/-- The container of a type that is certain to hold something, and its elements. -/
def containerOf (tokens : List Token) : Container × List Token :=
  match argument? sequenceNames tokens, argument? setNames tokens, tokens with
  | some element, _, _ => (.sequence, element)
  | none, some element, _ => (.set, element)
  | none, none, [.group .square content] => (.array, (splitAtMark ';' content).headD [])
  | none, none, _ => (.scalar, tokens)

/-- The storage of a field of the given type. -/
def ofType (tokens : List Token) : Storage :=
  let inner := argument? optionNames tokens
  let (container, element) := containerOf (inner.getD tokens)
  { optional := inner.isSome, container := container, element := element }

/-- The name of the element type, if it has one. -/
def elementName? (storage : Storage) : Option String :=
  (namedType? storage.element).map (·.name)

/-- The written form of the element type, without blanks. -/
def elementText (storage : Storage) : String :=
  let tokens := arrangeTokens false (Token.sizes storage.element + 1) storage.element
  String.ofList ((Token.sources tokens).toList.filter (!Text.isBlank ·))

/-- The field holds a list of elements. -/
def isList (storage : Storage) : Bool :=
  storage.container != .scalar

end Storage

end FieldSearch.Declaration
