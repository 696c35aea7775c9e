import FieldSearch.Pattern.Octets
import FieldSearch.Pattern.Tree

namespace FieldSearch.Pattern

/-!
# Sizes of matchers

A pattern is matched by an automaton over octets, which is built once to read
texts forwards and once to read them backwards. Patterns whose automaton would
take too much memory in either direction are refused (`Tree.fits`). The size is
found without building the automaton: every state and every way on from it counts.
-/

/-- The direction in which an automaton reads. -/
inductive Direction where
  | forward
  | backward
  deriving Repr, DecidableEq

/-- The memory of a state. -/
def stateSize : Nat := 32

/-- The memory of one of several octets that a state reads. -/
def edgeSize : Nat := 8

/-- The memory of one of several states that a state goes on to at once. -/
def branchSize : Nat := 4

/-- The memory of a state that goes on to so many states at once. -/
def forkSize (count : Nat) : Nat :=
  stateSize + branchSize * count

/-- The memory of a state that reads octets in so many intervals. -/
def readerSize (count : Nat) : Nat :=
  stateSize + edgeSize * count

/-! ## Classes -/

/-- Sequences by what they start with: those that start alike stand together. -/
def byHead (sequences : List (List Interval)) : List (Interval × List (List Interval)) :=
  sequences.foldr
    (fun sequence groups =>
      match sequence, groups with
      | [], _ => groups
      | head :: tail, (other, tails) :: rest =>
          if head = other then (other, tail :: tails) :: rest
          else (head, [tail]) :: (other, tails) :: rest
      | head :: tail, [] => [(head, [tail])])
    []

/-- What may still be read at every state of the tree of some sequences, up to a length. -/
def remainders : Nat → List (List Interval) → List (List (List Interval))
  | 0, _ => []
  | length + 1, sequences =>
      let groups := byHead sequences
      if groups.isEmpty then
        []
      else
        sequences :: groups.flatMap fun (_, tails) => remainders length tails

/-- How many intervals of octets come first in some sequences. -/
def headCount (sequences : List (List Interval)) : Nat :=
  (byHead sequences).length

/-- The memory for a class that is one character. -/
def characterSize (point : Nat) : Nat :=
  stateSize * (octets point).length

/-- The memory for a class of ASCII characters, or of none. -/
def asciiSize (intervals : List Interval) : Nat :=
  stateSize + readerSize intervals.length

/--
The memory for a class of any characters. Forwards, states at which the same may
still be read are one; backwards, what has been read alike is read once.
-/
def classSize (direction : Direction) (intervals : List Interval) : Nat :=
  let sequences := intervals.flatMap Interval.sequences
  let states := remainders 4 sequences
  match direction with
  | .forward =>
      stateSize + (states.eraseDups.map fun state => readerSize (headCount state)).foldl (· + ·) 0
  | .backward =>
      stateSize + forkSize sequences.length + stateSize * (states.map headCount).foldl (· + ·) 0

/-- The memory for the characters in intervals. -/
def intervalsSize (direction : Direction) (intervals : List Interval) : Nat :=
  match intervals with
  | [interval] =>
      if interval.first = interval.last then
        characterSize interval.first
      else if interval.last < 0x80 then
        asciiSize intervals
      else
        classSize direction intervals
  | intervals =>
      if intervals.all (·.last < 0x80) then asciiSize intervals else classSize direction intervals

/-! ## Choices between texts -/

/-- Texts by their first octet, in the order in which those come first. -/
def byOctet (texts : List (List Nat)) : List (Nat × List (List Nat)) :=
  let heads := (texts.filterMap List.head?).eraseDups
  heads.map fun head =>
    (head, texts.filterMap fun text => if text.head? = some head then some text.tail else none)

/-- Texts between those that are empty. -/
def betweenEmpty : List (List Nat) → List (List (List Nat))
  | [] => [[]]
  | [] :: rest => [] :: betweenEmpty rest
  | text :: rest =>
      match betweenEmpty rest with
      | [] => [[text]]
      | part :: parts => (text :: part) :: parts

/--
The memory of the tree of some texts, up to a length. Texts after one that is
read to its end are read apart from those before it.
-/
def treeSize : Nat → List (List Nat) → Nat
  | 0, _ => 0
  | length + 1, texts =>
      let parts := (betweenEmpty texts).map byOctet
      let filled := parts.filter (!·.isEmpty)
      if filled.isEmpty then
        0
      else
        let readers := filled.map fun groups =>
          if groups.length = 1 then stateSize else readerSize groups.length
        let further := filled.flatMap fun groups =>
          groups.map fun (_, tails) => treeSize length tails
        forkSize (filled.length + parts.length - 1) + readers.foldl (· + ·) 0 +
          further.foldl (· + ·) 0

/-- The memory for a choice between texts. -/
def textsSize (direction : Direction) (texts : List (List Nat)) : Nat :=
  let texts := if direction = .forward then texts else texts.map List.reverse
  stateSize + treeSize ((texts.map List.length).foldl max 0 + 1) texts

namespace Tree

/-! ## Plain forms -/

mutual

/-- A pattern matches the empty text alone, wherever it matches. -/
def isBlank : Tree → Bool
  | empty => true
  | setting => true
  | chars _ _ => false
  | look _ => true
  | group _ inner => inner.isBlank
  | sequence parts => areBlank parts
  | choice branches => areBlank branches
  | repeated inner _ _ => inner.isBlank

/-- All of several patterns match the empty text alone. -/
def areBlank : List Tree → Bool
  | [] => true
  | tree :: rest => tree.isBlank && areBlank rest

end

mutual

/-- A pattern does not match the empty text. -/
def needsText : Tree → Bool
  | empty => false
  | setting => false
  | chars set _ => !set.intervals.isEmpty
  | look _ => false
  | group _ inner => inner.needsText
  | sequence parts => anyNeedsText parts
  | choice branches => allNeedText branches
  | repeated inner least _ => least != 0 && inner.needsText

/-- One of several patterns does not match the empty text. -/
def anyNeedsText : List Tree → Bool
  | [] => false
  | tree :: rest => tree.needsText || anyNeedsText rest

/-- None of several patterns matches the empty text. -/
def allNeedText : List Tree → Bool
  | [] => true
  | tree :: rest => tree.needsText && allNeedText rest

end

/-- The parts of a sequence, or a pattern as the only part; nothing has no part. -/
def partsOf : Tree → List Tree
  | empty => []
  | sequence parts => parts
  | tree => [tree]

/-- The branches of a choice, or a pattern as the only branch. -/
def branchesOf : Tree → List Tree
  | choice branches => branches
  | tree => [tree]

/-- The class of a pattern that is one. -/
def class? : Tree → Option CharClass
  | chars set _ => some set
  | _ => none

/-- A choice between branches; one between classes is a class. -/
def plainChoice (branches : List Tree) : Tree :=
  let branches := branches.flatMap branchesOf
  match branches.mapM class? with
  | some classes => if classes.length = 1 then ofBranches branches else chars (.unionAll classes) 0
  | none => ofBranches branches

/-- A repetition; what matches the empty text alone is not repeated. -/
def plainRepeated (inner : Tree) (least : Nat) (most : Option Nat) : Tree :=
  let (least, most) :=
    if inner.isBlank then (min least 1, some (min (most.getD 1) 1)) else (least, most)
  if most = some 0 then
    empty
  else if least = 1 ∧ most = some 1 then
    inner
  else
    repeated inner least most

mutual

/-- A pattern without what makes no difference to its matcher. -/
def plain : Tree → Tree
  | empty => empty
  | setting => empty
  | chars set depth => chars set depth
  | look condition => look condition
  | group isCapture inner => if isCapture then group true inner.plain else inner.plain
  | sequence parts => ofParts ((plainAll parts).flatMap partsOf)
  | choice branches => plainChoice (plainAll branches)
  | repeated inner least most => plainRepeated inner.plain least most

/-- Patterns without what makes no difference to their matchers. -/
def plainAll : List Tree → List Tree
  | [] => []
  | tree :: rest => tree.plain :: plainAll rest

end

/-! ## Memory -/

/-- The only character of a pattern that is a single one. -/
def character? : Tree → Option Nat
  | chars set _ =>
      match set.intervals with
      | [interval] => if interval.first = interval.last then some interval.first else none
      | _ => none
  | _ => none

/-- The octets of a pattern that is a text. -/
def text? (tree : Tree) : Option (List Nat) :=
  match tree.partsOf with
  | [] => none
  | parts => (parts.mapM character?).map fun points => points.flatMap octets

/-- Take memory from what there is, if it suffices. -/
def spend (cost budget : Nat) : Option Nat :=
  if cost ≤ budget then some (budget - cost) else none

/-- The memory of a repetition besides its copies, and the number of those. -/
def repetitionCost (needsText : Bool) (least : Nat) (most : Option Nat) : Nat × Nat :=
  match least, most with
  | 0, some 1 => (forkSize 2 + stateSize, 1)
  | 0, none => (if needsText then forkSize 2 else 2 * forkSize 2 + stateSize, 1)
  | least, none => (forkSize 2, least)
  | least, some most =>
      if least = most then
        (0, least)
      else
        let start := if least = 0 then stateSize else 0
        (start + stateSize + (most - least) * forkSize 2, most)

mutual

/-- What is left of some memory after the matcher of a pattern, if it suffices. -/
def charge (direction : Direction) : Tree → Nat → Option Nat
  | empty, budget => spend stateSize budget
  | setting, budget => spend stateSize budget
  | look _, budget => spend stateSize budget
  | chars set _, budget => spend (intervalsSize direction set.intervals) budget
  | group isCapture inner, budget => do
      let left ← spend (if isCapture ∧ direction = .forward then 2 * stateSize else 0) budget
      inner.charge direction left
  | sequence parts, budget => chargeAll direction parts budget
  | choice branches, budget =>
      match branches.mapM text? with
      | some texts => spend (textsSize direction texts) budget
      | none => do
          let left ← spend (stateSize + forkSize branches.length) budget
          chargeAll direction branches left
  | repeated inner least most, budget => do
      let left ← inner.charge direction budget
      let (cost, copies) := repetitionCost inner.needsText least most
      spend (cost + copies * (budget - left)) budget

/-- What is left of some memory after the matchers of several patterns. -/
def chargeAll (direction : Direction) : List Tree → Nat → Option Nat
  | [], budget => some budget
  | tree :: rest, budget => do
      let left ← tree.charge direction budget
      chargeAll direction rest left

end

/-- The memory that every automaton takes besides the matcher for its pattern. -/
def baseSize : Direction → Nat
  | .forward => forkSize 2 + readerSize 1 + 4 * stateSize
  | .backward => forkSize 2 + readerSize 1 + 2 * stateSize

/-- The automata for a pattern do not take more memory than they may. -/
def fits (tree : Tree) (sizeLimit : Nat) : Bool :=
  let tree := tree.plain
  [Direction.forward, Direction.backward].all fun direction =>
    (spend (baseSize direction) sizeLimit >>= tree.charge direction).isSome

end Tree

end FieldSearch.Pattern
