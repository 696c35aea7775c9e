import FieldSearch.Pattern.Bracket
import FieldSearch.Pattern.MatcherSize
import FieldSearch.Text.Letter

namespace FieldSearch.Pattern

/-!
# Reading patterns

Patterns are written in the common notation of regular expressions: characters,
classes in brackets with set operations, escapes, groups, alternatives,
repetitions, assertions about lines and words, and inline flags. A flag set
inside a group holds until the group ends. References to groups and conditions
that look ahead or behind are not part of the notation.

The reader works through the text once. It keeps the groups that are still open
on a stack, and each step consumes at least one character, so the length of the
text bounds the number of steps.
-/

/-- An open group, or the whole pattern. -/
structure Group where
  /-- Parts of the branch being read, last first. -/
  parts : List Tree := []
  /-- Finished branches, last first. -/
  branches : List Tree := []
  /-- The group captures what it matches. -/
  isCapture : Bool := false
  deriving Repr

/-- Add a part to the branch being read. -/
def Group.push (group : Group) (part : Tree) : Group :=
  { group with parts := part :: group.parts }

/-- Finish the branch being read and start another. -/
def Group.branch (group : Group) : Group :=
  { group with parts := [], branches := .ofParts group.parts.reverse :: group.branches }

/-- The pattern in a finished group. -/
def Group.inner (group : Group) : Tree :=
  .ofBranches group.branch.branches.reverse

/-- How far a pattern has been read. -/
structure Reader where
  flags : Flags
  group : Group := {}
  /-- The groups around the current one, each with the flags to go back to. -/
  outer : List (Group × Flags) := []
  names : List String := []
  deriving Repr

/-- Read digits of a count, blanks between them left out where they do not count. -/
def readCountDigits (flags : Flags) :
    Nat →
    List Char →
    List Char →
    List Char × List Char
  | 0, digits, characters => (digits.reverse, characters)
  | steps + 1, digits, characters =>
      match characters with
      | digit :: rest =>
          if digit.isDigit then
            readCountDigits flags steps (digit :: digits) (flags.dropSpace rest)
          else
            (digits.reverse, characters)
      | [] => (digits.reverse, [])

/-- The number of repetitions that digits stand for, if there are any. -/
def countOf? (digits : List Char) : Option Nat :=
  if digits.isEmpty then
    none
  else
    let count := Nat.ofDigitChars 10 digits 0
    if count < Nat.pow 2 32 then some count else none

/-- Read a count with blanks around it; none for a count without digits. -/
def readCount (flags : Flags) (characters : List Char) : Option Nat × List Char :=
  let characters := Text.dropBlanks characters
  let (digits, rest) := readCountDigits flags characters.length [] characters
  let rest := if rest.head?.any Text.isBlank then flags.dropSpace (Text.dropBlanks rest) else rest
  (countOf? digits, rest)

/-- The number of repetitions: at least and at most. -/
abbrev Bounds := Nat × Option Nat

/-- Read bounds in braces after the opening one. -/
def readBounds? (flags : Flags) (characters : List Char) : Option (Bounds × List Char) := do
  let (least, rest) := readCount flags (flags.dropSpace characters)
  let least ← least
  match rest with
  | '\x7d' :: rest => return ((least, some least), rest)
  | ',' :: rest =>
      match flags.dropSpace rest with
      | '\x7d' :: rest => return ((least, none), rest)
      | rest =>
          let (most, rest) := readCount flags rest
          let most ← most
          match rest with
          | '\x7d' :: rest => if least ≤ most then return ((least, some most), rest) else none
          | _ => none
  | _ => none

/-- Repeat the last part that was read. -/
def Group.repeatLast? (group : Group) (bounds : Bounds) : Option Group :=
  match group.parts with
  | [] => none
  | .setting :: _ => none
  | part :: rest => some { group with parts := .repeated part bounds.1 bounds.2 :: rest }

/-- Skip the mark that asks for short matches first; whether there is one is the same. -/
def dropLazyMark (characters : List Char) : List Char :=
  match characters with
  | '?' :: rest => rest
  | _ => characters

/-- Read flags up to the character that ends them. -/
def readFlags? :
    Flags →
    List Char →
    Bool →
    List Char →
    Option (Flags × List Char × List Char)
  | _, _, _, [] => none
  | flags, seen, negated, character :: rest =>
      if character = ':' ∨ character = ')' then
        if seen.head? = some '-' then
          none
        else
          some (flags, seen, character :: rest)
      else if seen.contains character then
        none
      else if character = '-' then
        readFlags? flags ('-' :: seen) true rest
      else do
        let flags ← flags.set? character (!negated)
        readFlags? flags (character :: seen) negated rest

/-- A character that the name of a group may have, at its start or further on. -/
def isNameCharacter (isFirst : Bool) (character : Char) : Bool :=
  character == '_' || Text.isAlphabetic character ||
    (!isFirst && (['.', '[', ']'].contains character || Text.isNumeric character))

/-- Read the name of a group up to the closing angle bracket. -/
def readGroupName? (characters : List Char) : Option (String × List Char) :=
  let name := characters.takeWhile (· != '>')
  match name, characters.dropWhile (· != '>') with
  | first :: others, _ :: rest =>
      if isNameCharacter true first && others.all (isNameCharacter false) then
        some (String.ofList name, rest)
      else
        none
  | _, _ => none

/-- Open a group with the given flags, which may capture what it matches. -/
def Reader.openGroup (reader : Reader) (isCapture : Bool) (flags : Flags) : Reader :=
  { reader with
    flags := flags
    group := { isCapture := isCapture }
    outer := (reader.group, reader.flags) :: reader.outer }

/-- Open a named group, unless the name is taken. -/
def Reader.openNamed? (reader : Reader) (name : String) : Option Reader :=
  if reader.names.contains name then
    none
  else
    some { reader.openGroup true reader.flags with names := name :: reader.names }

/-- Read what follows an opening parenthesis. -/
def Reader.readOpening? (reader : Reader) (characters : List Char) :
    Option (Reader × List Char) := do
  match reader.flags.dropSpace characters with
  | '?' :: 'P' :: '<' :: rest | '?' :: '<' :: rest =>
      let (name, rest) ← readGroupName? rest
      return (← reader.openNamed? name, rest)
  | '?' :: rest =>
      let (flags, seen, rest) ← readFlags? reader.flags [] false rest
      match rest with
      | ')' :: rest =>
          if seen.isEmpty then
            none
          else
            return ({ reader with flags := flags, group := reader.group.push .setting }, rest)
      | _ :: rest => return (reader.openGroup false flags, rest)
      | [] => none
  | rest => return (reader.openGroup true reader.flags, rest)

/-- Close the current group. -/
def Reader.closeGroup? (reader : Reader) : Option Reader :=
  match reader.outer with
  | [] => none
  | (group, flags) :: outer =>
      some { reader with
        flags := flags
        group := group.push (.group reader.group.isCapture reader.group.inner)
        outer := outer }

/-- The condition of a caret or dollar sign. -/
def Flags.lineLook (flags : Flags) (isStart : Bool) : Look :=
  if !flags.multiLine then
    if isStart then .textStart else .textEnd
  else if flags.anyLineEnd then
    if isStart then .anyLineStart else .anyLineEnd
  else
    if isStart then .lineStart flags.lineMark else .lineEnd flags.lineMark

/-- Add what a single character or escape matches. -/
def Reader.pushAtom? (reader : Reader) (atom : Atom) : Option Reader := do
  let part ← reader.flags.part? atom
  return { reader with group := reader.group.push part }

/-- Repeat the last part and skip a mark for short matches. -/
def Reader.repeatLast?
    (reader : Reader)
    (bounds : Bounds)
    (rest : List Char) :
    Option (Reader × List Char) := do
  let group ← reader.group.repeatLast? bounds
  return ({ reader with group := group }, dropLazyMark rest)

/-- Read the next part of a pattern, given its first character. -/
def Reader.step?
    (reader : Reader)
    (character : Char)
    (rest : List Char) :
    Option (Reader × List Char) :=
  match character with
  | '(' => reader.readOpening? rest
  | ')' => reader.closeGroup?.map (·, rest)
  | '|' => some ({ reader with group := reader.group.branch }, rest)
  | '[' => do
      let (bracket, rest) := readClassStart reader.flags rest
      let (part, rest) ← readClass? reader.flags (rest.length + 1) bracket [] rest
      return ({ reader with group := reader.group.push part }, rest)
  | '?' => reader.repeatLast? (0, some 1) rest
  | '*' => reader.repeatLast? (0, none) rest
  | '+' => reader.repeatLast? (1, none) rest
  | '\x7b' => do
      let (bounds, rest) ← readBounds? reader.flags rest
      reader.repeatLast? bounds (reader.flags.dropSpace rest)
  | '\\' => do
      let (atom, rest) ← readEscape? reader.flags rest
      return (← reader.pushAtom? atom, rest)
  | '.' => (reader.pushAtom? .dot).map (·, rest)
  | '^' => (reader.pushAtom? (.look (reader.flags.lineLook true))).map (·, rest)
  | '$' => (reader.pushAtom? (.look (reader.flags.lineLook false))).map (·, rest)
  | character => (reader.pushAtom? (.literal character false)).map (·, rest)

/-- Read a pattern to its end, in at most so many steps. -/
def Reader.run? : Reader → Nat → List Char → Option Tree
  | _, 0, _ => none
  | reader, steps + 1, characters =>
      match reader.flags.dropSpace characters with
      | [] => if reader.outer.isEmpty then some reader.group.inner else none
      | character :: rest => do
          let (reader, rest) ← reader.step? character rest
          reader.run? steps rest

/-- Read a pattern; `anyCase` makes letter case irrelevant from the start. -/
def read? (source : String) (anyCase : Bool) (options : Options) : Option Node := do
  let characters := source.toList
  let reader : Reader := { flags := { toOptions := options, anyCase := anyCase } }
  let tree ← reader.run? (characters.length + 1) characters
  if tree.depth ≤ options.maxDepth ∧ tree.fits options.sizeLimit then return tree.node else none

end FieldSearch.Pattern
