import FieldSearch.Pattern.Escape
import FieldSearch.Pattern.Tree

namespace FieldSearch.Pattern

/-!
# Classes in brackets

Classes are written in brackets as characters, ranges and other classes, which
set operations join. Letter case is left out of account before a class is
negated, and where classes are of octets they have to keep to ASCII, each of them.
-/

/-- A class for bytes has to keep to ASCII, or it would split characters. -/
def asciiOnly? (set : CharClass) : Option CharClass :=
  if (List.range 128).any fun offset => set.contains (Char.ofNat (128 + offset)) then
    none
  else
    some set

/-- A class that keeps to ASCII where the flags ask for bytes. -/
def Flags.octetSafe? (flags : Flags) (set : CharClass) : Option CharClass :=
  if flags.unicode then some set else asciiOnly? set

/-- The characters outside a class, or the bytes where the flags ask for them. -/
def Flags.complement (flags : Flags) (set : CharClass) : CharClass :=
  if flags.unicode then set.complement else .diff (.range 0 0xFF) set

/-- Close a class under case where the flags say so. -/
def Flags.fold (flags : Flags) (set : CharClass) : CharClass :=
  if !flags.anyCase then
    set
  else if flags.unicode then
    .anyCase set
  else
    .anyAsciiCase set

/-- Close a class under case, then exclude it if it is negated. -/
def Flags.foldAndNegate (flags : Flags) (set : CharClass) (negated : Bool) : CharClass :=
  let folded := flags.fold set
  if negated then flags.complement folded else folded

/-- The class of an escape such as `\d`. -/
def Flags.shorthand?
    (flags : Flags)
    (set asciiSet : CharClass)
    (negated : Bool) :
    Option CharClass :=
  if flags.unicode then
    some (if negated then set.complement else set)
  else
    asciiOnly? (if negated then flags.complement asciiSet else asciiSet)

/-- The class of a named property; names are for characters and not for bytes. -/
def Flags.namedClass? (flags : Flags) (set : CharClass) (negated : Bool) : Option CharClass :=
  if flags.unicode then some (flags.foldAndNegate set negated) else none

/-- The classes of a dot. -/
def Flags.dotClass? (flags : Flags) : Option CharClass :=
  if !flags.unicode then
    none
  else if flags.dotAll then
    some .all
  else if flags.anyLineEnd then
    some (.complement (pairs [(0x0A, 0x0A), (0x0D, 0x0D)]))
  else
    some (.complement (.single flags.lineMark))

/-- What a single character or escape matches. -/
def Flags.part? (flags : Flags) : Atom → Option Tree
  | .literal character isByte =>
      if isByte && !flags.unicode && 0x7F < character.toNat then
        none
      else
        some (.chars (flags.fold (.single character)) 0)
  | .shorthand set asciiSet negated => (flags.shorthand? set asciiSet negated).map (.chars · 0)
  | .named set negated => (flags.namedClass? set negated).map (.chars · 0)
  | .dot => flags.dotClass?.map (.chars · 0)
  | .look condition => some (.look condition)

/-- The set operations of classes in brackets. -/
inductive SetOperation where
  | intersection
  | difference
  | symmetricDifference
  deriving Repr, DecidableEq

/-- A class as far as it has been read, and how deeply brackets are nested in it. -/
structure Operand where
  set : CharClass := .none
  depth : Nat := 0
  deriving Repr

/-- A class in brackets as far as it has been read. -/
structure OpenClass where
  negated : Bool
  /-- The operand being read. -/
  operand : Operand := {}
  /-- How many items that has. -/
  count : Nat := 0
  /-- The operands before it, and the operation that takes them on the left. -/
  pending : Option (Operand × SetOperation) := none
  deriving Repr

/-- Add an item to the operand being read. -/
def OpenClass.add (bracket : OpenClass) (set : CharClass) (depth : Nat := 0) : OpenClass :=
  { bracket with
    operand :=
      { set := .union bracket.operand.set set, depth := max bracket.operand.depth depth }
    count := bracket.count + 1 }

/-- The operand being read, joined to those before it; several items count as nested. -/
def OpenClass.joined (flags : Flags) (bracket : OpenClass) : Operand :=
  let depth := bracket.operand.depth + (if bracket.count < 2 then 0 else 1)
  match bracket.pending with
  | none => { bracket.operand with depth := depth }
  | some (left, operation) =>
      let leftSet := flags.fold left.set
      let rightSet := flags.fold bracket.operand.set
      let set :=
        match operation with
        | .intersection => .inter leftSet rightSet
        | .difference => .diff leftSet rightSet
        | .symmetricDifference => .symmetricDifference leftSet rightSet
      { set := set, depth := max left.depth depth + 1 }

/-- Start another operand after an operation. -/
def OpenClass.operate
    (flags : Flags)
    (bracket : OpenClass)
    (operation : SetOperation) :
    OpenClass :=
  { negated := bracket.negated, pending := some (bracket.joined flags, operation) }

/-- The class that an item of a class in brackets stands for. -/
def Flags.itemClass? (flags : Flags) : Atom → Option CharClass
  | .literal character _ =>
      if !flags.unicode && 0x7F < character.toNat then
        none
      else
        some (.single character)
  | .shorthand set asciiSet negated => flags.shorthand? set asciiSet negated
  | .named set negated => flags.namedClass? set negated
  | _ => none

/-- The character that a bound of a range stands for. -/
def Flags.bound? (flags : Flags) : Atom → Option Char
  | .literal character _ =>
      if !flags.unicode && 0x7F < character.toNat then none else some character
  | _ => none

/-- Read a character or escape within brackets. -/
def readItem? (flags : Flags) : List Char → Option (Atom × List Char)
  | [] => none
  | '\\' :: rest => readEscape? flags rest
  | character :: rest => some (.literal character false, rest)

/-- The next character that counts after a hyphen. -/
def Flags.peekAfter (flags : Flags) (characters : List Char) : Option Char :=
  if flags.spaced then
    match Text.dropBlanks characters with
    | '#' :: rest => (Text.dropBlanks rest).head?
    | rest => rest.head?
  else
    characters.head?

/-- Read an item of a class in brackets, which may be a range. -/
def readRange? (flags : Flags) (characters : List Char) : Option (CharClass × List Char) := do
  let (first, rest) ← readItem? flags characters
  match flags.dropSpace rest with
  | [] => none
  | '-' :: afterHyphen =>
      let next := flags.peekAfter afterHyphen
      if next = some ']' ∨ next = some '-' then
        return (← flags.itemClass? first, '-' :: afterHyphen)
      else
        let (last, rest) ← readItem? flags (flags.dropSpace afterHyphen)
        let first ← flags.bound? first
        let last ← flags.bound? last
        if first ≤ last then
          return (.range first.toNat last.toNat, rest)
        else
          none
  | rest => return (← flags.itemClass? first, rest)

/-- Read a named class of ASCII characters after its opening bracket. -/
def readAsciiClass? (flags : Flags) : List Char → Option (CharClass × List Char)
  | ':' :: rest =>
      let (negated, rest) :=
        match rest with
        | '^' :: rest => (true, rest)
        | _ => (false, rest)
      let name := rest.takeWhile (· != ':')
      match rest.dropWhile (· != ':') with
      | ':' :: ']' :: rest =>
          (asciiClass? (String.ofList name)).map fun set =>
            (flags.foldAndNegate set negated, rest)
      | _ => none
  | _ => none

/-- Read hyphens at the start of a class, where they stand for themselves. -/
def readHyphens (flags : Flags) :
    Nat →
    OpenClass →
    List Char →
    OpenClass × List Char
  | 0, bracket, characters => (bracket, characters)
  | steps + 1, bracket, characters =>
      match characters with
      | '-' :: rest => readHyphens flags steps (bracket.add (.single '-')) (flags.dropSpace rest)
      | _ => (bracket, characters)

/-- Read the start of a class after its opening bracket. -/
def readClassStart (flags : Flags) (characters : List Char) : OpenClass × List Char :=
  let characters := flags.dropSpace characters
  let (negated, characters) :=
    match characters with
    | '^' :: rest => (true, flags.dropSpace rest)
    | _ => (false, characters)
  match characters with
  | ']' :: rest => (OpenClass.add { negated := negated } (.single ']'), flags.dropSpace rest)
  | _ => readHyphens flags characters.length { negated := negated } characters

/-- The class that a closed pair of brackets stands for. -/
def OpenClass.close? (flags : Flags) (bracket : OpenClass) : Option Operand := do
  let inner := bracket.joined flags
  let set ← flags.octetSafe? (flags.foldAndNegate inner.set bracket.negated)
  return { set := set, depth := inner.depth + 1 }

/-- Read a class in brackets, given the classes that are open, innermost first. -/
def readClass? (flags : Flags) :
    Nat →
    OpenClass →
    List OpenClass →
    List Char →
    Option (Tree × List Char)
  | 0, _, _, _ => none
  | steps + 1, bracket, outer, characters =>
      match flags.dropSpace characters with
      | [] => none
      | '[' :: rest =>
          match readAsciiClass? flags rest with
          | some (set, rest) => do
              readClass? flags steps (bracket.add (← flags.octetSafe? set)) outer rest
          | none =>
              let (inner, rest) := readClassStart flags rest
              readClass? flags steps inner (bracket :: outer) rest
      | ']' :: rest =>
          match outer, bracket.close? flags with
          | [], some closed => some (.chars closed.set closed.depth, rest)
          | enclosing :: outer, some closed =>
              readClass? flags steps (enclosing.add closed.set closed.depth) outer rest
          | _, none => none
      | '&' :: '&' :: rest =>
          readClass? flags steps (bracket.operate flags .intersection) outer rest
      | '-' :: '-' :: rest =>
          readClass? flags steps (bracket.operate flags .difference) outer rest
      | '~' :: '~' :: rest =>
          readClass? flags steps (bracket.operate flags .symmetricDifference) outer rest
      | characters => do
          let (set, rest) ← readRange? flags characters
          readClass? flags steps (bracket.add set) outer rest

end FieldSearch.Pattern
