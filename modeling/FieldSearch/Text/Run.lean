namespace FieldSearch.Text

/-!
# Runs of code points

A set of characters is stored as a list of runs, and a case mapping as a list
of runs that are moved by a constant distance. A run may step over every other
code point, which is how the alternating upper and lower case letters of many
alphabets are laid out.
-/

/-- Code points from `first` to `last`, `stride` apart. -/
structure Run where
  first : Nat
  last : Nat
  stride : Nat
  deriving Repr, DecidableEq

/-- Membership of a code point in a run. -/
def Run.contains (run : Run) (point : Nat) : Bool :=
  run.first ≤ point && point ≤ run.last && (point - run.first) % run.stride == 0

/-- Membership of a character in a list of runs. -/
def inRuns (runs : List Run) (character : Char) : Bool :=
  runs.any (·.contains character.toNat)

/-- A run whose code points are mapped to others at a constant distance. -/
structure ShiftRule where
  source : Run
  distance : Int
  deriving Repr, DecidableEq

/-- The image of a code point under a rule that covers it. -/
def ShiftRule.image? (rule : ShiftRule) (point : Nat) : Option Nat :=
  if rule.source.contains point then
    some (point + rule.distance).toNat
  else
    none

/-- The code point that a rule maps to the given one, if there is one. -/
def ShiftRule.preimage? (rule : ShiftRule) (image : Nat) : Option Nat :=
  let point := (image - rule.distance).toNat
  if rule.image? point = some image then some point else none

/-- Map a character by the first rule that covers it; others stay as they are. -/
def shifted (rules : List ShiftRule) (character : Char) : Char :=
  match rules.findSome? (·.image? character.toNat) with
  | some point => Char.ofNat point
  | none => character

end FieldSearch.Text
