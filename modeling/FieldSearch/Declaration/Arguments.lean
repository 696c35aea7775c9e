import FieldSearch.Declaration.Reading

namespace FieldSearch.Declaration

/-!
# Arguments in angle brackets

Types take arguments, and declarations have parameters, in angle brackets. When
they are written again, lifetimes come first, and each one keeps the comma that
follows it (`Argument.arrange`, `Argument.join`).
-/

/-- An argument or a parameter. -/
structure Argument where
  content : List Token
  /-- A comma follows. -/
  hasComma : Bool
  deriving Repr

namespace Argument

/-- Arguments from their tokens, all but the last one followed by a comma. -/
def ofParts : List (List Token) → List Argument
  | [] => []
  | [part] => if part.isEmpty then [] else [{ content := part, hasComma := false }]
  | part :: rest => { content := part, hasComma := true } :: ofParts rest

/-- The arguments between angle brackets. -/
def listOf (inside : List Token) : List Argument :=
  ofParts (splitArguments inside)

/-- The argument is a lifetime, and not a type that starts with one. -/
def isLifetime (argument : Argument) : Bool :=
  startsWithLifetime argument.content && !startsWith "+" (argument.content.drop 1)

/-- Lifetimes first, and each sort in order. -/
def arrange (arguments : List Argument) : List Argument :=
  arguments.filter (·.isLifetime) ++ arguments.filter (!·.isLifetime)

/-- A comma. -/
def comma : Token :=
  .atom (.mark ',' false)

/-- An argument with the comma that follows it. -/
def tokens (argument : Argument) : List Token :=
  argument.content ++ (if argument.hasComma then [comma] else [])

/-- Arguments with their commas, and one where a comma is missing between two. -/
def join : List Argument → List Token
  | [] => []
  | [last] => last.tokens
  | first :: rest => { first with hasComma := true : Argument }.tokens ++ join rest

end Argument

mutual

/-- The written form of a token, where no blanks are needed. -/
def Token.source : Token → String
  | .atom simple => simple.source
  | .group bracket content =>
      bracket.opening.toString ++ Token.sources content ++ bracket.closing.toString

/-- The written form of tokens, where no blanks are needed. -/
def Token.sources : List Token → String
  | [] => ""
  | token :: rest => token.source ++ Token.sources rest

end

end FieldSearch.Declaration
