import FieldSearch.Text.Blank

namespace FieldSearch.Pattern

/-!
# Options and flags of patterns

A pattern is compiled under options, which set modes of reading and matching and
limits for what is accepted. Letters in the pattern switch some of the modes for
parts of it. In the spaced mode, blanks and comments in a pattern do not count.
-/

/-- What a pattern is compiled under, beside whether letter case counts. -/
structure Options where
  multiLine : Bool := false
  dotAll : Bool := false
  unicode : Bool := true
  anyLineEnd : Bool := false
  spaced : Bool := false
  /-- Digits after a backslash are the octal number of a character. -/
  octal : Bool := false
  /-- The character of ASCII that ends a line. -/
  lineMark : Char := '\n'
  /-- Patterns nested more deeply than this are refused. -/
  maxDepth : Nat := 250
  /-- The memory that an automaton may take. -/
  sizeLimit : Nat := 10 * Nat.pow 2 20
  deriving Repr, DecidableEq

/-- The modes at a place of a pattern: its options, as inline flags have switched them. -/
structure Flags extends Options where
  anyCase : Bool
  deriving Repr, DecidableEq

/-- Switch the mode of a flag letter. -/
def Flags.set? (flags : Flags) (letter : Char) (value : Bool) : Option Flags :=
  match letter with
  | 'i' => some { flags with anyCase := value }
  | 'm' => some { flags with multiLine := value }
  | 's' => some { flags with dotAll := value }
  | 'u' => some { flags with unicode := value }
  | 'R' => some { flags with anyLineEnd := value }
  | 'x' => some { flags with spaced := value }
  | 'U' => some flags
  | _ => none

/-- Skip a comment up to the end of its line. -/
def dropComment (characters : List Char) : List Char :=
  (characters.dropWhile (· != '\n')).drop 1

/-- Skip blanks and comments; the first argument bounds the number of comments. -/
def dropSpaceWithin : Nat → List Char → List Char
  | 0, characters => characters
  | steps + 1, characters =>
      match Text.dropBlanks characters with
      | '#' :: rest => dropSpaceWithin steps (dropComment rest)
      | rest => rest

/-- Skip blanks and comments where the flags say that they do not count. -/
def Flags.dropSpace (flags : Flags) (characters : List Char) : List Char :=
  if flags.spaced then
    dropSpaceWithin characters.length characters
  else
    characters

end FieldSearch.Pattern
