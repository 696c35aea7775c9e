import FieldSearch.Pattern.Flags
import FieldSearch.Pattern.Matching

namespace FieldSearch.Pattern

/-!
# Escapes

What a backslash and the characters after it stand for: characters by their code
points, classes by their names or letters, and conditions on lines and words.
-/

/-- Characters with a meaning of their own, which a backslash takes from them. -/
def isMeta (character : Char) : Bool :=
  "\\.+*?()|[]\x7b\x7d^$#&-~".toList.contains character

/-- Characters that a backslash may stand before without changing them. -/
def isPlainEscape (character : Char) : Bool :=
  isMeta character ||
    (character.toNat < 128 && !character.isAlphanum && character != '<' &&
      character != '>')

/-- A character written by its code point, if it is a valid one. -/
def ofCodePoint? (point : Nat) : Option Char :=
  if point < 0xD800 ∨ (0xDFFF < point ∧ point < 0x110000) then
    some (Char.ofNat point)
  else
    none

/-- What an escape or a single character stands for. -/
inductive Atom where
  /-- A character; `isByte` if it was written as a byte of two digits. -/
  | literal (character : Char) (isByte : Bool)
  | shorthand (set asciiSet : CharClass) (negated : Bool)
  | named (set : CharClass) (negated : Bool)
  | dot
  | look (condition : Look)
  deriving Repr

/-- Read hexadecimal digits in braces, up to the closing one. -/
def readBracedHex? (flags : Flags) :
    Nat →
    List Char →
    List Char →
    Option (List Char × List Char)
  | 0, _, _ => none
  | steps + 1, digits, characters =>
      match flags.dropSpace characters with
      | '\x7d' :: rest => some (digits.reverse, rest)
      | digit :: rest =>
          if (Numeral.hexDigit? digit).isSome then
            readBracedHex? flags steps (digit :: digits) rest
          else
            none
      | [] => none

/-- Read so many hexadecimal digits. -/
def readHexDigits? (flags : Flags) :
    Nat →
    List Char →
    List Char →
    Option (List Char × List Char)
  | 0, digits, characters => some (digits.reverse, characters)
  | count + 1, digits, characters =>
      match flags.dropSpace characters with
      | digit :: rest =>
          if (Numeral.hexDigit? digit).isSome then
            readHexDigits? flags count (digit :: digits) rest
          else
            none
      | [] => none

/-- Read a code point after the letter that says how many digits it has. -/
def readCodePoint?
    (flags : Flags)
    (width : Nat)
    (characters : List Char) :
    Option (Atom × List Char) := do
  match flags.dropSpace characters with
  | '\x7b' :: rest =>
      let (digits, rest) ← readBracedHex? flags (rest.length + 1) [] rest
      if digits.isEmpty then
        none
      else
        let character ← ofCodePoint? (hexValue digits)
        return (.literal character false, flags.dropSpace rest)
  | rest =>
      let (digits, rest) ← readHexDigits? flags width [] rest
      let character ← ofCodePoint? (hexValue digits)
      return (.literal character (width == 2), flags.dropSpace rest)

/-- An octal digit. -/
def isOctalDigit (character : Char) : Bool :=
  '0' ≤ character && character ≤ '7'

/-- Read the octal number of a character, which has at most three digits. -/
def readOctal? (characters : List Char) : Option (Atom × List Char) := do
  let digits := (characters.take 3).takeWhile isOctalDigit
  let character ← ofCodePoint? (Nat.ofDigitChars 8 digits 0)
  return (.literal character false, characters.drop digits.length)

/-- Read a name up to the closing brace, blanks left out where they do not count. -/
def readBracedName? (flags : Flags) :
    Nat →
    List Char →
    List Char →
    Option (List Char × List Char)
  | 0, _, _ => none
  | steps + 1, name, characters =>
      match flags.dropSpace characters with
      | '\x7d' :: rest => some (name.reverse, rest)
      | character :: rest => readBracedName? flags steps (character :: name) rest
      | [] => none

/-- Split a name at the first occurrence of a separator. -/
def splitAt? (separator : List Char) : List Char → Option (List Char × List Char)
  | [] => none
  | character :: rest =>
      if separator.isPrefixOf (character :: rest) then
        some ([], (character :: rest).drop separator.length)
      else
        (splitAt? separator rest).map fun (before, after) => (character :: before, after)

/-- The class that the text between braces names, and whether it is excluded. -/
def bracedClass? (name : List Char) : Option (CharClass × Bool) :=
  match splitAt? ['!', '='] name with
  | some (property, value) => (valuedClass? property value).map (·, true)
  | none =>
      match splitAt? [':'] name <|> splitAt? ['='] name with
      | some (property, value) => (valuedClass? property value).map (·, false)
      | none => (namedClass? name).map (·, false)

/-- Read the name of a class after the letter that asks for it. -/
def readNamedClass?
    (flags : Flags)
    (negated : Bool)
    (characters : List Char) :
    Option (Atom × List Char) := do
  match flags.dropSpace characters with
  | '\x7b' :: rest =>
      let (name, rest) ← readBracedName? flags (rest.length + 1) [] rest
      let (set, excluded) ← bracedClass? name
      return (.named set (negated != excluded), rest)
  | '\\' :: _ => none
  | letter :: rest =>
      let set ← namedClass? [letter]
      return (.named set negated, flags.dropSpace rest)
  | [] => none

/-- The characters of words, as the flags have it. -/
def Flags.wordClass (flags : Flags) : CharClass :=
  if flags.unicode then
    Pattern.wordClass
  else
    (asciiClass? "word").getD .none

/-- A letter or hyphen, as the names of word boundaries are made of. -/
def isBoundaryLetter (character : Char) : Bool :=
  character.isAlpha || character == '-'

/-- Read the name of a word boundary. -/
def readBoundaryName (flags : Flags) :
    Nat →
    List Char →
    List Char →
    List Char × List Char
  | 0, name, characters => (name.reverse, characters)
  | steps + 1, name, characters =>
      match characters with
      | character :: rest =>
          if isBoundaryLetter character then
            readBoundaryName flags steps (character :: name) (flags.dropSpace rest)
          else
            (name.reverse, characters)
      | [] => (name.reverse, [])

/-- Read a word boundary; a name in braces says which side of a word is meant. -/
def readBoundary? (flags : Flags) (characters : List Char) : Option (Atom × List Char) :=
  let word := flags.wordClass
  let plain : Option (Atom × List Char) :=
    some (.look (.wordBoundary word), characters)
  match characters with
  | '\x7b' :: rest =>
      match flags.dropSpace rest with
      | [] => none
      | first :: more =>
          if isBoundaryLetter first then
            let (name, rest) :=
              readBoundaryName flags (more.length + 1) [] (first :: more)
            match rest with
            | '\x7d' :: rest =>
                match String.ofList name with
                | "start" => some (.look (.wordStart word), rest)
                | "end" => some (.look (.wordEnd word), rest)
                | "start-half" => some (.look (.wordStartHalf word), rest)
                | "end-half" => some (.look (.wordEndHalf word), rest)
                | _ => none
            | _ => none
          else
            plain
  | _ => plain

/-- Read an escape after its backslash. -/
def readEscape? (flags : Flags) : List Char → Option (Atom × List Char)
  | [] => none
  | character :: rest =>
      let literal (meant : Char) : Option (Atom × List Char) :=
        some (.literal meant false, rest)
      let letterClass (set : CharClass) (name : String) (negated : Bool) :
          Option (Atom × List Char) :=
        some (.shorthand set ((asciiClass? name).getD .none) negated, rest)
      match character with
      | 'x' => readCodePoint? flags 2 rest
      | 'u' => readCodePoint? flags 4 rest
      | 'U' => readCodePoint? flags 8 rest
      | 'p' => readNamedClass? flags false rest
      | 'P' => readNamedClass? flags true rest
      | 'd' => letterClass digitClass "digit" false
      | 'D' => letterClass digitClass "digit" true
      | 's' => letterClass blankClass "space" false
      | 'S' => letterClass blankClass "space" true
      | 'w' => letterClass wordClass "word" false
      | 'W' => letterClass wordClass "word" true
      | 'a' => literal '\x07'
      | 'f' => literal '\x0c'
      | 't' => literal '\t'
      | 'n' => literal '\n'
      | 'r' => literal '\r'
      | 'v' => literal '\x0b'
      | 'A' => some (.look .textStart, rest)
      | 'z' => some (.look .textEnd, rest)
      | 'b' => readBoundary? flags rest
      | 'B' => some (.look (.notWordBoundary flags.wordClass), rest)
      | '<' => some (.look (.wordStart flags.wordClass), rest)
      | '>' => some (.look (.wordEnd flags.wordClass), rest)
      | _ =>
          if flags.octal && isOctalDigit character then
            readOctal? (character :: rest)
          else if isPlainEscape character then
            literal character
          else
            none

end FieldSearch.Pattern
