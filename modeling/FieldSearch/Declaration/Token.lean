namespace FieldSearch.Declaration

/-!
# Tokens of declarations

The types, attributes and parameters of a declaration are tokens. Round, square
and curly brackets group the tokens between them; angle brackets do not, since
they also compare. An operator of several marks is several tokens, each of which
but the last one is joint with the next.
-/

/-- Brackets that group tokens. -/
inductive Bracket where
  | round
  | square
  | curly
  deriving Repr, DecidableEq

namespace Bracket

/-- Every kind of bracket. -/
def all : List Bracket := [round, square, curly]

/-- The opening bracket. -/
def opening : Bracket → Char
  | round => '('
  | square => '['
  | curly => '\x7b'

/-- The closing bracket. -/
def closing : Bracket → Char
  | round => ')'
  | square => ']'
  | curly => '\x7d'

/-- The kind of an opening bracket. -/
def ofOpening? (character : Char) : Option Bracket :=
  all.find? (·.opening == character)

/-- The kind of a closing bracket. -/
def ofClosing? (character : Char) : Option Bracket :=
  all.find? (·.closing == character)

end Bracket

/-- A token that is not a group. -/
inductive Atom where
  | name (text : String)
  | lifetime (text : String)
  /-- A string literal, with its value and as it is written. -/
  | string (value source : String)
  /-- Another literal. -/
  | literal (source : String)
  /-- A mark, and whether another one follows at once. -/
  | mark (character : Char) (isJoint : Bool)
  deriving Repr, DecidableEq

/-- The written form of an atom. -/
def Atom.source : Atom → String
  | name text => text
  | lifetime text => text
  | string _ source => source
  | literal source => source
  | mark character _ => character.toString

/-- A token, where groups are single tokens. -/
inductive Token where
  | atom (atom : Atom)
  | group (bracket : Bracket) (content : List Token)
  deriving Repr

namespace Token

/-- The token is a certain mark. -/
def isMark (character : Char) : Token → Bool
  | atom (.mark mark _) => mark == character
  | _ => false

/-- The token is a certain name. -/
def isName (text : String) : Token → Bool
  | atom (.name name) => name == text
  | _ => false

/-- The token is a group in certain brackets. -/
def isGroup (bracket : Bracket) : Token → Bool
  | group found _ => found == bracket
  | _ => false

/-- The token is a lifetime. -/
def isLifetime : Token → Bool
  | atom (.lifetime _) => true
  | _ => false

mutual

/-- The number of tokens in a token, itself included. -/
def size : Token → Nat
  | atom _ => 1
  | group _ content => 1 + sizes content

/-- The number of tokens in tokens. -/
def sizes : List Token → Nat
  | [] => 0
  | token :: rest => token.size + sizes rest

end

end Token

/-- The tokens after an operator at the start, whose marks are joint. -/
def afterOperator? : List Char → List Token → Option (List Token)
  | [], tokens => some tokens
  | character :: more, .atom (.mark mark isJoint) :: rest =>
      if mark = character ∧ (isJoint ∨ more.isEmpty) then afterOperator? more rest else none
  | _, _ => none

/-- Tokens start with an operator. -/
def startsWith (operator : String) (tokens : List Token) : Bool :=
  (afterOperator? operator.toList tokens).isSome

/-- The first token is a certain name. -/
def startsWithName (text : String) (tokens : List Token) : Bool :=
  tokens.head?.any (·.isName text)

/-- The first token is a group in certain brackets. -/
def startsWithGroup (bracket : Bracket) (tokens : List Token) : Bool :=
  tokens.head?.any (·.isGroup bracket)

/-- Split tokens at every top-level occurrence of a mark. -/
def splitAtMark (character : Char) : List Token → List (List Token)
  | [] => [[]]
  | token :: rest =>
      if token.isMark character then
        [] :: splitAtMark character rest
      else
        match splitAtMark character rest with
        | [] => [[token]]
        | part :: parts => (token :: part) :: parts

/-- The depth of angle brackets, and whether a dash stands before the next token. -/
structure AngleDepth where
  depth : Nat := 0
  afterDash : Bool := false
  deriving Repr, DecidableEq

/-- The depth after a token; the end of an arrow is no bracket. -/
def AngleDepth.after (depth : AngleDepth) : Token → AngleDepth
  | .atom (.mark '<' _) => { depth := depth.depth + 1 }
  | .atom (.mark '>' _) => { depth := if depth.afterDash then depth.depth else depth.depth - 1 }
  | .atom (.mark '-' isJoint) => { depth with afterDash := isJoint }
  | _ => { depth := depth.depth }

/-- The tokens up to the end of angle brackets that are open, and those after it. -/
def splitAngleFrom : AngleDepth → List Token → List Token × List Token
  | _, [] => ([], [])
  | depth, token :: rest =>
      let next := depth.after token
      if next.depth = 0 then
        ([], rest)
      else
        let (inside, after) := splitAngleFrom next rest
        (token :: inside, after)

/-- The tokens inside an angle bracket that has been opened, and those after its end. -/
def splitAngle (tokens : List Token) : List Token × List Token :=
  splitAngleFrom { depth := 1 } tokens

/-- Split tokens at commas that are not deeper than a depth of angle brackets. -/
def splitArgumentsFrom : AngleDepth → List Token → List (List Token)
  | _, [] => [[]]
  | depth, token :: rest =>
      if depth.depth = 0 ∧ token.isMark ',' then
        [] :: splitArgumentsFrom {} rest
      else
        match splitArgumentsFrom (depth.after token) rest with
        | [] => [[token]]
        | part :: parts => (token :: part) :: parts

/-- Split tokens at commas that are not inside angle brackets. -/
def splitArguments (tokens : List Token) : List (List Token) :=
  splitArgumentsFrom {} tokens

end FieldSearch.Declaration
