import FieldSearch.Pattern.Interval

namespace FieldSearch.Pattern

/-!
# Octets of characters

Texts are stored as octets in UTF-8. The characters of an interval of code points
are sequences of octets in certain intervals (`Interval.sequences`), which is how
a matcher for a class is built.
-/

/-- The octets of a code point. -/
def octets (point : Nat) : List Nat :=
  if point < 0x80 then
    [point]
  else if point < 0x800 then
    [0xC0 + point / 64, 0x80 + point % 64]
  else if point < 0x10000 then
    [0xE0 + point / 4096, 0x80 + point / 64 % 64, 0x80 + point % 64]
  else
    [0xF0 + point / 262144, 0x80 + point / 4096 % 64, 0x80 + point / 64 % 64, 0x80 + point % 64]

namespace Interval

/-- The greatest code points that one, two and three octets hold. -/
def lengthBounds : List Nat := [0x7F, 0x7FF, 0xFFFF]

/-- How many code points share all octets but the last one, two or three. -/
def blockSizes : List Nat := [64, 4096, 262144]

/-- Where an interval has to be cut so that its blocks are whole, if it has to be. -/
def blockCut? (interval : Interval) (size : Nat) : Option Nat :=
  let firstBlock := interval.first / size
  let lastBlock := interval.last / size
  if firstBlock = lastBlock then
    none
  else if interval.first % size ≠ 0 then
    some (firstBlock * size + size - 1)
  else if interval.last % size ≠ size - 1 then
    some (lastBlock * size - 1)
  else
    none

/-- The last point before the first cut of an interval, if it has to be cut. -/
def cut? (interval : Interval) : Option Nat :=
  match lengthBounds.find? fun bound => interval.first ≤ bound ∧ bound < interval.last with
  | some bound => some bound
  | none =>
      if interval.last ≤ 0x7F then none else blockSizes.findSome? interval.blockCut?

/-- The parts of an interval that need no cut, with a bound on the cuts in a row. -/
def parts : Nat → Interval → List Interval
  | 0, interval => [interval]
  | fuel + 1, interval =>
      match interval.cut? with
      | some point =>
          parts fuel { interval with last := point } ++
            parts fuel { interval with first := point + 1 }
      | none => [interval]

/-- An interval without the code points that are no characters. -/
def scalars (interval : Interval) : List Interval :=
  [⟨interval.first, min interval.last 0xD7FF⟩, ⟨max interval.first 0xE000, interval.last⟩].filter
    fun part => part.first ≤ part.last

/-- The sequences of intervals of octets for the characters of an interval. -/
def sequences (interval : Interval) : List (List Interval) :=
  (interval.scalars.flatMap (parts 32)).map fun part =>
    List.zipWith Interval.mk (octets part.first) (octets part.last)

end Interval

end FieldSearch.Pattern
