import FieldSearch.Pattern.Folding
import FieldSearch.Text.Case

namespace FieldSearch.Pattern

/-!
# Character classes

Sets of characters as patterns describe them: runs of code points and their
unions, intersections and differences, and the closure under letter case.
Membership is decided by the structure of the description.
-/

/-- A set of characters. -/
inductive CharClass where
  | runs (runs : List Text.Run)
  | union (left right : CharClass)
  | inter (left right : CharClass)
  | diff (left right : CharClass)
  /-- The characters that share a simple case folding with one of a class. -/
  | anyCase (inner : CharClass)
  /-- The same for the case of ASCII letters alone. -/
  | anyAsciiCase (inner : CharClass)
  deriving Repr

namespace CharClass

/-- Membership of a character in a class. -/
def contains : CharClass → Char → Bool
  | runs set, character => Text.inRuns set character
  | union left right, character => left.contains character || right.contains character
  | inter left right, character => left.contains character && right.contains character
  | diff left right, character => left.contains character && !right.contains character
  | anyCase inner, character =>
      (caseVariants character).any fun variant => inner.contains variant
  | anyAsciiCase inner, character =>
      [character, Text.asciiLower character, Text.asciiUpper character].any
        fun variant => inner.contains variant

/-- The characters from one code point to another. -/
def range (first last : Nat) : CharClass :=
  runs [⟨first, last, 1⟩]

/-- The class of no character. -/
def none : CharClass :=
  runs []

/-- The class of every character. -/
def all : CharClass :=
  range 0 0x10FFFF

/-- The class of one character. -/
def single (character : Char) : CharClass :=
  range character.toNat character.toNat

/-- The characters outside a class. -/
def complement (inner : CharClass) : CharClass :=
  diff all inner

/-- The characters of one class or the other, but not both. -/
def symmetricDifference (left right : CharClass) : CharClass :=
  union (diff left right) (diff right left)

/-- The union of several classes. -/
def unionAll (classes : List CharClass) : CharClass :=
  classes.foldr union none

end CharClass

/-- Runs from pairs of first and last code points. -/
def pairs (bounds : List (Nat × Nat)) : CharClass :=
  .runs (bounds.map fun (first, last) => ⟨first, last, 1⟩)

/-- The named classes of ASCII characters. -/
def asciiClass? (name : String) : Option CharClass :=
  match name with
  | "alnum" => some (pairs [(0x30, 0x39), (0x41, 0x5A), (0x61, 0x7A)])
  | "alpha" => some (pairs [(0x41, 0x5A), (0x61, 0x7A)])
  | "ascii" => some (pairs [(0x00, 0x7F)])
  | "blank" => some (pairs [(0x09, 0x09), (0x20, 0x20)])
  | "cntrl" => some (pairs [(0x00, 0x1F), (0x7F, 0x7F)])
  | "digit" => some (pairs [(0x30, 0x39)])
  | "graph" => some (pairs [(0x21, 0x7E)])
  | "lower" => some (pairs [(0x61, 0x7A)])
  | "print" => some (pairs [(0x20, 0x7E)])
  | "punct" => some (pairs [(0x21, 0x2F), (0x3A, 0x40), (0x5B, 0x60), (0x7B, 0x7E)])
  | "space" => some (pairs [(0x09, 0x0D), (0x20, 0x20)])
  | "upper" => some (pairs [(0x41, 0x5A)])
  | "word" => some (pairs [(0x30, 0x39), (0x41, 0x5A), (0x5F, 0x5F), (0x61, 0x7A)])
  | "xdigit" => some (pairs [(0x30, 0x39), (0x41, 0x46), (0x61, 0x66)])
  | _ => none

end FieldSearch.Pattern
