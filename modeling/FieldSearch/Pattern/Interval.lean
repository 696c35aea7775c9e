import FieldSearch.Pattern.CharClass

namespace FieldSearch.Pattern

/-!
# Intervals

A class of characters as the list of its maximal intervals of code points, in
order (`CharClass.intervals`).
-/

/-- Numbers from a first to a last one. -/
structure Interval where
  first : Nat
  last : Nat
  deriving Repr, DecidableEq

namespace Interval

/-- Add an interval that does not start before the last one, which comes first. -/
def append (reversed : List Interval) (next : Interval) : List Interval :=
  match reversed with
  | [] => [next]
  | previous :: others =>
      if next.first ≤ previous.last + 1 then
        { previous with last := max previous.last next.last } :: others
      else
        next :: reversed

/-- The maximal intervals that some intervals make up, in order. -/
def join (intervals : List Interval) : List Interval :=
  let sorted := intervals.mergeSort fun left right => decide (left.first ≤ right.first)
  (sorted.foldl append []).reverse

/-- The greatest code point. -/
def maxPoint : Nat := 0x10FFFF

/-- The intervals between intervals in order, from a code point on. -/
def gapsFrom (start : Nat) : List Interval → List Interval
  | [] => if start ≤ maxPoint then [⟨start, maxPoint⟩] else []
  | next :: rest =>
      let gap := if start < next.first then [⟨start, next.first - 1⟩] else []
      gap ++ gapsFrom (next.last + 1) rest

/-- The code points outside intervals. -/
def complement (intervals : List Interval) : List Interval :=
  gapsFrom 0 intervals

/-- The code points in both of two lists of intervals. -/
def inter (left right : List Interval) : List Interval :=
  complement (join (complement left ++ complement right))

/-- A code point is in one of some intervals. -/
def covers (intervals : List Interval) (point : Nat) : Bool :=
  intervals.any fun interval => interval.first ≤ point && point ≤ interval.last

/-- The intervals of a run. -/
def ofRun (run : Text.Run) : List Interval :=
  if run.stride = 1 then
    [⟨run.first, run.last⟩]
  else
    (List.range ((run.last - run.first) / run.stride + 1)).map fun index =>
      let point := run.first + index * run.stride
      ⟨point, point⟩

/-- The code points that a rule maps, with those that it maps them to. -/
def ruledPoints (rule : Text.ShiftRule) : List (Nat × Nat) :=
  (ofRun rule.source).flatMap fun interval =>
    (List.range (interval.last - interval.first + 1)).map fun index =>
      let point := interval.first + index
      (point, (point + rule.distance).toNat)

/-- Every code point that differs from its representative in case, with that. -/
def foldedPoints : List (Nat × Nat) :=
  foldRules.flatMap ruledPoints

/-- Intervals with the points that differ from theirs in case alone. -/
def anyCase (intervals : List Interval) : List Interval :=
  let found := foldedPoints.filter fun (point, folded) =>
    covers intervals point || covers intervals folded
  let folded := found.map (·.2)
  let more := foldedPoints.filter fun entry => folded.contains entry.2
  join (intervals ++ folded.map (fun point => ⟨point, point⟩) ++
    more.map fun (point, _) => ⟨point, point⟩)

/-- Intervals with the ASCII letters that differ from theirs in case alone. -/
def anyAsciiCase (intervals : List Interval) : List Interval :=
  let shifted (letters : Interval) (move : Nat → Nat) :=
    (inter intervals [letters]).map fun interval => ⟨move interval.first, move interval.last⟩
  join (intervals ++ shifted ⟨0x41, 0x5A⟩ (· + 32) ++ shifted ⟨0x61, 0x7A⟩ (· - 32))

end Interval

/-- The maximal intervals of a class. -/
def CharClass.intervals : CharClass → List Interval
  | runs set => Interval.join (set.flatMap Interval.ofRun)
  | union left right => Interval.join (left.intervals ++ right.intervals)
  | inter left right => Interval.inter left.intervals right.intervals
  | diff left right => Interval.inter left.intervals (Interval.complement right.intervals)
  | anyCase inner => Interval.anyCase inner.intervals
  | anyAsciiCase inner => Interval.anyAsciiCase inner.intervals

end FieldSearch.Pattern
