import FieldSearch.Pattern.Property

namespace FieldSearch.Pattern

/-!
# Matching patterns

A pattern relates positions of a text: those where a match may start to those
where it may end. Sets of positions are marked along the gaps between the
characters, and `Node.reach` carries the marks of the starts to the marks of
the ends, by the structure of the pattern. Repetition needs no more rounds than
there are gaps, because each round either moves marks forward or settles them.
-/

/-- A gap of a text, with the characters on its two sides. -/
structure Gap where
  before : Option Char
  after : Option Char
  deriving Repr, DecidableEq

/-- The gaps of a text that follows the given character. -/
def gapsAfter (before : Option Char) : List Char → List Gap
  | [] => [⟨before, none⟩]
  | character :: rest => ⟨before, some character⟩ :: gapsAfter (some character) rest

/-- The gaps of a text, one more than it has characters. -/
def gaps (text : String) : List Gap :=
  gapsAfter none text.toList

/-- A condition on the characters around a gap. -/
inductive Look where
  | textStart
  | textEnd
  /-- The start of a line, where lines end with the mark. -/
  | lineStart (mark : Char)
  | lineEnd (mark : Char)
  /-- The start of a line that ends with a carriage return, a line feed or both. -/
  | anyLineStart
  | anyLineEnd
  | wordBoundary (word : CharClass)
  | notWordBoundary (word : CharClass)
  | wordStart (word : CharClass)
  | wordEnd (word : CharClass)
  | wordStartHalf (word : CharClass)
  | wordEndHalf (word : CharClass)
  deriving Repr

/-- One side of a gap has a character of a class. -/
def hasSide (set : CharClass) (side : Option Char) : Bool :=
  side.any set.contains

/-- A condition holds at a gap. -/
def Look.holds (look : Look) (gap : Gap) : Bool :=
  match look with
  | textStart => gap.before.isNone
  | textEnd => gap.after.isNone
  | lineStart mark => gap.before.isNone || gap.before == some mark
  | lineEnd mark => gap.after.isNone || gap.after == some mark
  | anyLineStart =>
      gap.before.isNone || gap.before == some '\n' ||
        (gap.before == some '\r' && gap.after != some '\n')
  | anyLineEnd =>
      gap.after.isNone || gap.after == some '\r' ||
        (gap.after == some '\n' && gap.before != some '\r')
  | wordBoundary word => hasSide word gap.before != hasSide word gap.after
  | notWordBoundary word => hasSide word gap.before == hasSide word gap.after
  | wordStart word => !hasSide word gap.before && hasSide word gap.after
  | wordEnd word => hasSide word gap.before && !hasSide word gap.after
  | wordStartHalf word => !hasSide word gap.before
  | wordEndHalf word => !hasSide word gap.after

/-- A pattern. -/
inductive Node where
  | empty
  | chars (set : CharClass)
  | look (condition : Look)
  | seq (first second : Node)
  | alt (left right : Node)
  /-- At least and, unless there is no limit, at most so many repetitions. -/
  | repeated (inner : Node) (least : Nat) (most : Option Nat)
  deriving Repr

/-- Marks on the gaps of a text, in order. -/
abbrev Marks := List Bool

/-- Marks of either set. -/
def Marks.either (left right : Marks) : Marks :=
  List.zipWith (· || ·) left right

/-- Move each mark over the next character, if that is in a class. -/
def Marks.advance (set : CharClass) (gaps : List Gap) (marks : Marks) : Marks :=
  false ::
    (List.zipWith (fun gap mark => mark && hasSide set gap.after) gaps marks).dropLast

/-- Keep the marks at gaps where a condition holds. -/
def Marks.filter (condition : Look) (gaps : List Gap) (marks : Marks) : Marks :=
  List.zipWith (fun gap mark => mark && condition.holds gap) gaps marks

/-- Apply a step to marks so many times, or until they settle. -/
def Marks.iterate (step : Marks → Marks) : Nat → Marks → Marks
  | 0, marks => marks
  | rounds + 1, marks =>
      let next := step marks
      if next = marks then marks else iterate step rounds next

/-- Add what at most so many steps reach. -/
def Marks.spread (step : Marks → Marks) (rounds : Nat) (marks : Marks) : Marks :=
  marks.iterate (fun current => current.either (step current)) rounds

/-- The ends of the matches that start at marked gaps. -/
def Node.reach (gaps : List Gap) : Node → Marks → Marks
  | empty, marks => marks
  | chars set, marks => marks.advance set gaps
  | look condition, marks => marks.filter condition gaps
  | seq first second, marks => second.reach gaps (first.reach gaps marks)
  | alt left right, marks =>
      Marks.either (left.reach gaps marks) (right.reach gaps marks)
  | repeated inner least most, marks =>
      let required := marks.iterate (inner.reach gaps) (min least gaps.length)
      let further :=
        match most with
        | some most => min (most - least) gaps.length
        | none => gaps.length
      required.spread (inner.reach gaps) further

/-- A pattern matches some part of a text. -/
def Node.matchesIn (node : Node) (text : String) : Bool :=
  let textGaps := gaps text
  (node.reach textGaps (textGaps.map fun _ => true)).any id

end FieldSearch.Pattern
