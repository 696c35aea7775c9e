import FieldSearch.Yaml.Scalar

namespace FieldSearch.Yaml

/-!
# Tags and directives of YAML

A tag is written in full, or as a handle and a suffix, where the handle stands
for a prefix. Two handles have a prefix from the start, and a directive gives a
prefix to a handle. Tags consist of the characters of resource identifiers, and
`%` with two digits stands for an octet of a character in UTF-8.
-/

/-- A character of a name. -/
def isNameChar (character : Char) : Bool :=
  character.isAlphanum || character == '_' || character == '-'

/-- A character of a tag; a few more may stand where nothing else can follow. -/
def isTagChar (isVerbatim : Bool) (character : Char) : Bool :=
  isNameChar character ||
    [';', '/', '?', ':', '@', '&', '=', '+', '$', '.', '!', '~', '*', '\'', '(', ')'].contains
      character ||
    (isVerbatim && [',', '[', ']'].contains character)

/-- The number of octets after the given first octet of a character. -/
def octetsAfter? (octet : Nat) : Option Nat :=
  if octet < 0x80 then some 0
  else if 0xC0 ≤ octet ∧ octet < 0xE0 then some 1
  else if 0xE0 ≤ octet ∧ octet < 0xF0 then some 2
  else if 0xF0 ≤ octet ∧ octet < 0xF8 then some 3
  else none

/-- The number of octets that are missing after one more. -/
def pendingAfter? (pending octet : Nat) : Option Nat :=
  if pending = 0 then
    octetsAfter? octet
  else if octet / 64 = 2 then
    some (pending - 1)
  else
    none

/-- The characters of a tag, given the octets that are missing; octets stay apart. -/
def readTagText? (isVerbatim : Bool) : Nat → List Char → Option (List Char × List Char)
  | pending, '%' :: high :: low :: rest => do
      let octet ← Numeral.hexToNat? [high, low]
      let pending ← pendingAfter? pending octet
      let (text, rest) ← readTagText? isVerbatim pending rest
      return (Char.ofNat octet :: text, rest)
  | 0, character :: rest =>
      if isTagChar isVerbatim character then
        (readTagText? isVerbatim 0 rest).map fun (text, rest) => (character :: text, rest)
      else if character = '%' then
        none
      else
        some ([], character :: rest)
  | 0, [] => some ([], [])
  | _ + 1, _ => none

/-- The characters of a tag, of which there is at least one. -/
def readTagPart? (isVerbatim : Bool) (characters : List Char) : Option (String × List Char) := do
  let (text, rest) ← readTagText? isVerbatim 0 characters
  if text.isEmpty then none else return (String.ofList text, rest)

/-- A tag as it is written; the handle is empty if there is none. -/
structure WrittenTag where
  handle : String
  suffix : String
  deriving Repr, DecidableEq

/-- A tag in full, between brackets that open after its first mark. -/
def readVerbatim? (characters : List Char) : Option (WrittenTag × List Char) := do
  let (suffix, rest) ← readTagPart? true characters
  match rest with
  | '>' :: rest => return (⟨"", suffix⟩, rest)
  | _ => none

/-- A tag with a handle. A lone mark is a tag without handle. -/
def readShorthand? (characters : List Char) : Option (WrittenTag × List Char) :=
  let name := characters.takeWhile isNameChar
  match characters.dropWhile isNameChar with
  | '!' :: rest =>
      (readTagPart? false rest).map fun (suffix, rest) =>
        (⟨String.ofList ('!' :: name ++ ['!']), suffix⟩, rest)
  | rest => do
      let (text, rest) ← readTagText? false 0 rest
      let suffix := name ++ text
      if suffix.isEmpty then
        return (⟨"", "!"⟩, rest)
      else
        return (⟨"!", String.ofList suffix⟩, rest)

/-- A tag from its first mark on, with a gap or a comma of a flow collection after it. -/
def readTag? (inFlow : Bool) (characters : List Char) : Option (WrittenTag × List Char) := do
  let (tag, rest) ←
    match characters with
    | '!' :: '<' :: rest => readVerbatim? rest
    | _ => readShorthand? (characters.drop 1)
  if atGap rest || (inFlow && rest.head? == some ',') then return (tag, rest) else none

/-- A line of directions for the reader. -/
inductive Directive where
  /-- The version of YAML that a document is written in. -/
  | version (major minor : Nat)
  /-- A handle stands for a prefix. -/
  | handle (name replacement : String)
  deriving Repr, DecidableEq

/-- A number of a version, of at most nine digits. -/
def readVersionNumber? (characters : List Char) : Option (Nat × List Char) :=
  let digits := characters.takeWhile Char.isDigit
  if digits.isEmpty || 9 < digits.length then
    none
  else
    some (Numeral.digitsToNat digits, characters.dropWhile Char.isDigit)

/-- The value of a directive for the version. -/
def readVersion? (characters : List Char) : Option (Directive × List Char) := do
  let (major, rest) ← readVersionNumber? (characters.dropWhile isSpace)
  match rest with
  | '.' :: rest => do
      let (minor, rest) ← readVersionNumber? rest
      return (.version major minor, rest)
  | _ => none

/-- A handle in a directive. -/
def readHandle? : List Char → Option (String × List Char)
  | '!' :: characters =>
      let name := characters.takeWhile isNameChar
      match characters.dropWhile isNameChar with
      | '!' :: rest => some (String.ofList ('!' :: name ++ ['!']), rest)
      | rest => if name.isEmpty then some ("!", rest) else none
  | _ => none

/-- The value of a directive for a handle. -/
def readHandlePrefix? (characters : List Char) : Option (Directive × List Char) := do
  let (name, rest) ← readHandle? (characters.dropWhile isSpace)
  if rest.head?.any isSpace then
    let (replacement, rest) ← readTagPart? true (rest.dropWhile isSpace)
    if atGap rest then return (.handle name replacement, rest) else none
  else
    none

/-- The rest of a line is empty up to a comment. -/
def endsLine (characters : List Char) : Bool :=
  match characters.dropWhile isSpace with
  | [] => true
  | character :: _ => character == '#' || isBreak character

/-- The directive on a line, given without its first mark. -/
def readDirective? (line : List Char) : Option Directive := do
  let name := line.takeWhile isNameChar
  let value := line.dropWhile isNameChar
  let (directive, rest) ←
    if !atGap value then
      none
    else if name == "YAML".toList then
      readVersion? value
    else if name == "TAG".toList then
      readHandlePrefix? value
    else
      none
  if endsLine rest then return directive else none

/-- The prefixes that handles stand for. -/
abbrev Handles := List (String × String)

namespace Handles

/-- The handles that have a prefix without a directive. -/
def builtIn : Handles := [("!", "!"), ("!!", "tag:yaml.org,2002:")]

/-- The handles of directives; none if one of them is given twice. -/
def ofDirectives? : List Directive → Option Handles
  | [] => some []
  | .version _ _ :: rest => ofDirectives? rest
  | .handle name replacement :: rest => do
      let handles ← ofDirectives? rest
      if (handles.lookup name).isSome then none else return (name, replacement) :: handles

/-- The tag in full, if its handle is known. -/
def resolve? (handles : Handles) (tag : WrittenTag) : Option String :=
  if tag.handle.isEmpty then
    some tag.suffix
  else
    ((handles ++ builtIn).lookup tag.handle).map (· ++ tag.suffix)

end Handles

/-- The versions of YAML that are read. -/
def isKnownVersion (major minor : Nat) : Bool :=
  major == 1 && (minor == 1 || minor == 2)

/-- The versions named by directives. -/
def versions : List Directive → List (Nat × Nat)
  | [] => []
  | .version major minor :: rest => (major, minor) :: versions rest
  | .handle _ _ :: rest => versions rest

/-- The handles of a document with the given directives, if they can be followed. -/
def handlesOf? (directives : List Directive) : Option Handles :=
  let named := versions directives
  if named.length ≤ 1 ∧ named.all fun (major, minor) => isKnownVersion major minor then
    Handles.ofDirectives? directives
  else
    none

end FieldSearch.Yaml
