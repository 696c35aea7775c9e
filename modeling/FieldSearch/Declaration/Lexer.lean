import FieldSearch.Declaration.Token
import FieldSearch.Numeral
import FieldSearch.Text.Blank
import FieldSearch.Text.Identifier

namespace FieldSearch.Declaration

/-!
# From text to tokens of declarations

A text is cut into pieces from left to right, with blanks and comments between
them left out, and brackets then group the pieces (`Token.ofString?`). A comment
that documents what follows stands for an attribute.
-/

/-- A piece of a text: a bracket or an atom. -/
inductive Piece where
  | opens (bracket : Bracket)
  | closes (bracket : Bracket)
  | atom (atom : Atom)
  deriving Repr, DecidableEq

namespace Piece

/-- Groups still open, innermost first, each with the tokens in it so far. -/
structure Nesting where
  /-- The innermost tokens, last first. -/
  tokens : List Token := []
  outer : List (Bracket × List Token) := []

/-- Add a piece to the tokens read so far. -/
def add? (nesting : Nesting) : Piece → Option Nesting
  | opens bracket => some { tokens := [], outer := (bracket, nesting.tokens) :: nesting.outer }
  | closes bracket =>
      match nesting.outer with
      | (opened, tokens) :: outer =>
          if opened = bracket then
            some { tokens := .group bracket nesting.tokens.reverse :: tokens, outer := outer }
          else
            none
      | [] => none
  | atom simple => some { nesting with tokens := .atom simple :: nesting.tokens }

/-- The tokens that pieces make up, if their brackets are balanced. -/
def assemble? (pieces : List Piece) : Option (List Token) := do
  let nesting ← pieces.foldlM add? {}
  if nesting.outer.isEmpty then some nesting.tokens.reverse else none

end Piece

/-- The part of a text that comes before a rest of it. -/
def before (characters rest : List Char) : String :=
  String.ofList (characters.take (characters.length - rest.length))

/-! ## Blanks and comments -/

/-- A character between tokens: a blank, or a mark of the direction of writing. -/
def isBetween (character : Char) : Bool :=
  Text.isBlank character || character == '\u200e' || character == '\u200f'

/-- The rest after the end of a comment in which others may be nested. -/
def afterComment? : Nat → List Char → Option (List Char)
  | depth, '/' :: '*' :: rest => afterComment? (depth + 1) rest
  | 0, '*' :: '/' :: rest => some rest
  | depth + 1, '*' :: '/' :: rest => afterComment? depth rest
  | depth, _ :: rest => afterComment? depth rest
  | _, [] => none

/-- What starts a comment that documents, by whether it runs to the end of the line. -/
def documents : Bool → List Char → Bool
  | true, '/' :: '/' :: _ => false
  | true, '/' :: _ => true
  | false, '*' :: '*' :: _ => false
  | false, '*' :: '/' :: _ => false
  | false, '*' :: _ => true
  | _, '!' :: _ => true
  | _, _ => false

/-- Drop blanks and comments that document nothing, with a bound on their number. -/
def dropBetween : Nat → List Char → List Char
  | 0, characters => characters
  | fuel + 1, characters =>
      match characters.dropWhile isBetween with
      | '/' :: '/' :: rest =>
          if documents true rest then
            '/' :: '/' :: rest
          else
            dropBetween fuel (rest.dropWhile (· != '\n'))
      | '/' :: '*' :: rest =>
          if documents false rest then
            '/' :: '*' :: rest
          else
            match afterComment? 0 rest with
            | some rest => dropBetween fuel rest
            | none => '/' :: '*' :: rest
      | rest => rest

/-- The attribute that a comment with the given text stands for. -/
def documentation (isInner : Bool) (text : String) : List Piece :=
  .atom (.mark '#' isInner) :: (if isInner then [.atom (.mark '!' false)] else []) ++
    [.opens .square, .atom (.name "doc"), .atom (.mark '=' false), .atom (.string text text),
      .closes .square]

/-- A comment that documents, given whether it runs to the end of the line. -/
def readDocumentation? (isLine : Bool) (rest : List Char) : Option (List Piece × List Char) := do
  let body := rest.drop 1
  let after ← if isLine then some (body.dropWhile (· != '\n')) else afterComment? 0 body
  return (documentation (rest.head? == some '!') (before body after), after)

/-! ## Literals in quotation marks -/

/-- What may stand in a literal in quotation marks. -/
structure Quoting where
  /-- A character that may stand for itself. -/
  allows : Char → Bool
  /-- Escapes of two digits go up to here. -/
  maxEscape : Nat
  /-- Escapes by number of any character are known. -/
  hasNumbered : Bool
  /-- The character with the number zero may stand in it. -/
  allowsZero : Bool

namespace Quoting

/-- Text. -/
def text : Quoting := ⟨fun _ => true, 0x7F, true, true⟩

/-- Octets. -/
def octets : Quoting := ⟨(·.toNat < 0x80), 0xFF, false, true⟩

/-- Text that ends with a zero. -/
def zeroEnded : Quoting := ⟨(·.toNat != 0), 0xFF, true, false⟩

end Quoting

/-- The character of an escape of one letter. -/
def simpleEscape? : Char → Option Char
  | 'n' => some '\n'
  | 'r' => some '\r'
  | 't' => some '\t'
  | '0' => some '\x00'
  | '\\' => some '\\'
  | '\'' => some '\''
  | '"' => some '"'
  | _ => none

/-- The digits of an escape by number up to its bracket, of which six may stand. -/
def readBraced? : List Char → List Char → Option (Char × List Char)
  | digits, '\x7d' :: rest => do
      let character ← Numeral.charOfHex? digits
      if digits.isEmpty then none else return (character, rest)
  | digits, '_' :: rest => if digits.isEmpty then none else readBraced? digits rest
  | digits, digit :: rest =>
      if digits.length < 6 then readBraced? (digits ++ [digit]) rest else none
  | _, [] => none

/-- The character of an escape after its mark. -/
def readEscape? (quoting : Quoting) (characters : List Char) : Option (Char × List Char) := do
  let (character, rest) ←
    match characters with
    | 'x' :: high :: low :: rest => do
        let number ← Numeral.hexToNat? [high, low]
        if number ≤ quoting.maxEscape then some (Char.ofNat number, rest) else none
    | 'u' :: '\x7b' :: rest => if quoting.hasNumbered then readBraced? [] rest else none
    | mark :: rest => (simpleEscape? mark).map (·, rest)
    | [] => none
  if character.toNat = 0 ∧ !quoting.allowsZero then none else return (character, rest)

/-- The rest of a literal after an escaped line break: it goes on at the next character. -/
def continueLine? : List Char → Option (List Char)
  | '\r' :: '\n' :: rest => continueLine? rest
  | '\r' :: _ => none
  | '\n' :: rest => continueLine? rest
  | ' ' :: rest => continueLine? rest
  | '\t' :: rest => continueLine? rest
  | [] => none
  | rest => some rest

/-- The body of a literal up to its end mark, with a bound on its length. -/
def readBody? (quoting : Quoting) : Nat → List Char → Option (List Char × List Char)
  | 0, _ => none
  | fuel + 1, characters =>
      match characters with
      | '"' :: rest => some ([], rest)
      | '\\' :: '\n' :: rest => continueLine? ('\n' :: rest) >>= readBody? quoting fuel
      | '\\' :: '\r' :: rest => continueLine? ('\r' :: rest) >>= readBody? quoting fuel
      | '\\' :: rest => do
          let (character, rest) ← readEscape? quoting rest
          let (body, rest) ← readBody? quoting fuel rest
          return (character :: body, rest)
      | '\r' :: '\n' :: rest =>
          (readBody? quoting fuel rest).map fun (body, rest) => ('\n' :: body, rest)
      | '\r' :: _ => none
      | character :: rest =>
          if quoting.allows character then
            (readBody? quoting fuel rest).map fun (body, rest) => (character :: body, rest)
          else
            none
      | [] => none

/-- The body of a raw literal up to its end marks. -/
def readRawBody?
    (quoting : Quoting)
    (closing : List Char) :
    List Char →
    Option (List Char × List Char)
  | [] => none
  | '\r' :: '\n' :: rest =>
      (readRawBody? quoting closing rest).map fun (body, rest) => ('\r' :: '\n' :: body, rest)
  | character :: rest =>
      if closing.isPrefixOf (character :: rest) then
        some ([], (character :: rest).drop closing.length)
      else if character != '\r' && quoting.allows character then
        (readRawBody? quoting closing rest).map fun (body, rest) => (character :: body, rest)
      else
        none

/-- A character that may start a name. -/
def startsName (character : Char) : Bool :=
  character == '_' || Text.isIdentifierStart character

/-- The rest after the suffix of a literal, if there is one. -/
def afterSuffix (characters : List Char) : List Char :=
  if characters.head?.any startsName then
    characters.dropWhile Text.isIdentifierContinue
  else
    characters

/-- A literal with a value: a string, or a literal of another sort. -/
def ofLiteral (isText : Bool) (value : List Char) (source : String) : Atom :=
  if isText then .string (String.ofList value) source else .literal source

/-- A literal in quotation marks, from its first mark on. -/
def readQuoted? (quoting : Quoting) (isRaw : Bool) :
    List Char →
    Option (List Char × List Char)
  | '"' :: rest =>
      if isRaw then
        readRawBody? quoting ['"'] rest
      else
        readBody? quoting (rest.length + 1) rest
  | '#' :: rest =>
      let hashes := '#' :: rest.takeWhile (· == '#')
      match isRaw, rest.dropWhile (· == '#') with
      | true, '"' :: body =>
          if hashes.length < 256 then readRawBody? quoting ('"' :: hashes) body else none
      | _, _ => none
  | _ => none

/-- How the letters before a quotation mark make a literal. -/
structure LiteralForm where
  letters : List Char
  quoting : Quoting
  isText : Bool := false
  isRaw : Bool := false

/-- The forms of literals in quotation marks. -/
def literalForms : List LiteralForm := [
  { letters := [], quoting := .text, isText := true },
  { letters := ['r'], quoting := .text, isText := true, isRaw := true },
  { letters := ['b'], quoting := .octets },
  { letters := ['b', 'r'], quoting := .octets, isRaw := true },
  { letters := ['c'], quoting := .zeroEnded },
  { letters := ['c', 'r'], quoting := .zeroEnded, isRaw := true }]

/-- The literal in quotation marks at the start of a text, in a certain form. -/
def LiteralForm.read? (form : LiteralForm) (characters : List Char) : Option (Atom × List Char) :=
  if form.letters.isPrefixOf characters then do
    let (value, rest) ← readQuoted? form.quoting form.isRaw (characters.drop form.letters.length)
    let rest := afterSuffix rest
    return (ofLiteral form.isText value (before characters rest), rest)
  else
    none

/-- A literal of one character, from its first quotation mark on. -/
def readSingle? (quoting : Quoting) : List Char → Option (List Char)
  | '\'' :: '\\' :: rest =>
      match readEscape? quoting rest with
      | some (_, '\'' :: rest) => some (afterSuffix rest)
      | _ => none
  | '\'' :: character :: '\'' :: rest =>
      if quoting.allows character then some (afterSuffix rest) else none
  | _ => none

/-- A literal of one character or octet. -/
def readCharacter? (characters : List Char) : Option (Atom × List Char) := do
  let rest ←
    match characters with
    | 'b' :: rest => readSingle? .octets rest
    | rest => readSingle? .text rest
  return (.literal (before characters rest), rest)

/-! ## Numbers -/

/-- Digits of a number. -/
def isDigitOrGap (character : Char) : Bool :=
  character.isDigit || character == '_'

/-- The rest after an exponent, from after its mark; it needs a digit. -/
def afterExponent? (characters : List Char) : Option (List Char) :=
  let unsigned := characters.dropWhile (· == '_')
  let rest :=
    match unsigned with
    | '+' :: rest => rest
    | '-' :: rest => rest
    | rest => rest
  if (rest.takeWhile isDigitOrGap).any Char.isDigit then
    some (rest.dropWhile isDigitOrGap)
  else
    none

/-- A mark of an exponent. -/
def marksExponent (character : Char) : Bool :=
  character == 'e' || character == 'E'

/-- The rest after a number with a point or an exponent, from after its first digit. -/
def afterReal? (characters : List Char) : Option (List Char) :=
  match characters.dropWhile isDigitOrGap with
  | '.' :: rest =>
      if rest.head?.any fun next => next == '.' || startsName next then
        none
      else
        match rest.dropWhile isDigitOrGap with
        | mark :: more =>
            if marksExponent mark then
              some ((afterExponent? more).getD (mark :: more))
            else
              some (mark :: more)
        | [] => some []
  | mark :: more => if marksExponent mark then afterExponent? more else none
  | [] => none

/-- The bases of whole numbers, by the letter after a zero. -/
def bases : List (Char × Nat) := [('x', 16), ('o', 8), ('b', 2)]

/-- The base of a whole number, and the number without the sign of its base. -/
def splitBase : List Char → Nat × List Char
  | '0' :: letter :: rest =>
      match bases.lookup letter with
      | some base => (base, rest)
      | none => (10, '0' :: letter :: rest)
  | characters => (10, characters)

/-- A digit or gap of a number in a base; letters beyond it end the number. -/
def isDigitIn (base : Nat) (character : Char) : Bool :=
  character == '_' || character.isDigit ||
    (Numeral.hexDigit? character).any (· < base)

/-- The rest after a whole number. -/
def afterWhole? (characters : List Char) : Option (List Char) :=
  let (base, digits) := splitBase characters
  let found := digits.takeWhile (isDigitIn base)
  let values := found.filterMap Numeral.hexDigit?
  if values.isEmpty || values.any (base ≤ ·) || (base == 10 && found.head? == some '_') then
    none
  else
    some (digits.dropWhile (isDigitIn base))

/-- A number with its suffix, which has to end where no name goes on. -/
def readNumber? (characters : List Char) : Option (Atom × List Char) := do
  let rest ←
    match afterReal? (characters.drop 1) with
    | some rest => some rest
    | none => afterWhole? characters
  let rest := afterSuffix rest
  if rest.head?.any Text.isIdentifierContinue then
    none
  else
    return (.literal (before characters rest), rest)

/-! ## Names and marks -/

/-- Names that cannot be marked as no keywords. -/
def unmarkableNames : List String := ["_", "super", "self", "Self", "crate"]

/-- A name, after an optional mark that it is no keyword. -/
def readName? (characters : List Char) : Option (String × List Char) :=
  let isMarked := ['r', '#'].isPrefixOf characters
  let body := if isMarked then characters.drop 2 else characters
  if body.head?.any startsName then
    let rest := body.drop 1 |>.dropWhile Text.isIdentifierContinue
    if isMarked && unmarkableNames.contains (before body rest) then
      none
    else
      some (before characters rest, rest)
  else
    none

/-- A lifetime, after its mark; it is no part of a literal. -/
def readLifetime? (characters : List Char) : Option (Atom × List Char) := do
  let (name, rest) ← readName? characters
  let isMarked := ['r', '#'].isPrefixOf characters
  if rest.head? == some '\'' || (rest.head? == some '#' && !isMarked) then
    none
  else
    return (.lifetime ("'" ++ name), rest)

/-- The characters that are marks. -/
def isMarkChar (character : Char) : Bool :=
  "~!@#$%^&*-=+|;:,<.>/?'".toList.contains character

/-- A mark is next; a comment is none. -/
def startsMark : List Char → Bool
  | '/' :: '/' :: _ => false
  | '/' :: '*' :: _ => false
  | character :: _ => isMarkChar character
  | [] => false

/-- A mark, and whether another one follows. -/
def readMark? : List Char → Option (Atom × List Char)
  | '\'' :: rest => readLifetime? rest
  | character :: rest =>
      if startsMark (character :: rest) then
        some (.mark character (startsMark rest), rest)
      else
        none
  | [] => none

/-- What a name cannot start with, since a literal does. -/
def literalStarts : List (List Char) :=
  ["r\"", "r#\"", "r##", "b\"", "b'", "br\"", "br#", "c\"", "cr\"", "cr#"].map String.toList

/-- The atom at the start of a text. -/
def readAtom? (characters : List Char) : Option (Atom × List Char) :=
  literalForms.findSome? (·.read? characters) <|>
    readCharacter? characters <|>
    (if characters.head?.any Char.isDigit then readNumber? characters else none) <|>
    readMark? characters <|>
    if literalStarts.any (·.isPrefixOf characters) then
      none
    else
      (readName? characters).map fun (name, rest) => (.name name, rest)

namespace Piece

/-- The pieces at the start of a text that does not start with a blank. -/
def read? (characters : List Char) : Option (List Piece × List Char) :=
  match characters with
  | [] => none
  | '/' :: '/' :: rest => readDocumentation? true rest
  | '/' :: '*' :: rest => if documents false rest then readDocumentation? false rest else none
  | character :: rest =>
      match Bracket.ofOpening? character, Bracket.ofClosing? character with
      | some bracket, _ => some ([opens bracket], rest)
      | none, some bracket => some ([closes bracket], rest)
      | none, none => (readAtom? characters).map fun (found, rest) => ([atom found], rest)

/-- The pieces of a text, with a bound on their number. -/
def readAll? : Nat → List Char → Option (List Piece)
  | 0, _ => none
  | fuel + 1, characters =>
      match dropBetween (characters.length + 1) characters with
      | [] => some []
      | characters => do
          let (found, rest) ← read? characters
          let pieces ← readAll? fuel rest
          return found ++ pieces

end Piece

/-- The tokens of a text. -/
def Token.ofString? (text : String) : Option (List Token) :=
  Piece.readAll? (text.length + 1) text.toList >>= Piece.assemble?

end FieldSearch.Declaration
