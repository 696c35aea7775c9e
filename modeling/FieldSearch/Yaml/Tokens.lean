import FieldSearch.Yaml.Scalar
import FieldSearch.Yaml.Token

namespace FieldSearch.Yaml

/-!
# From text to tokens

A text is cut into tokens from left to right. Whether a node is the key of an
entry shows only at the colon after it, so the place of a node that could be one
is remembered and the tokens for a key are put there when the colon is met. A
key has to end on the line that it starts on, and within 1024 octets.
-/

/-- The place of a node that may turn out to be a key. -/
structure KeyPlace where
  /-- The number of tokens before the node. -/
  index : Nat
  line : Nat
  column : Nat
  /-- The number of octets before the node. -/
  offset : Nat
  /-- Nothing but a key can stand at this place. -/
  isRequired : Bool

/-- The state of cutting a text into tokens. -/
structure Scan where
  rest : List Char
  line : Nat := 0
  column : Nat := 0
  offset : Nat := 0
  /-- The column of the innermost open block, or minus one. -/
  indent : Int := -1
  /-- The columns of the blocks around it. -/
  outer : List Int := []
  /-- The possible key at each level of flow collections, innermost first. -/
  places : List (Option KeyPlace) := [none]
  keyAllowed : Bool := true
  tokens : List Token := []

namespace Scan

/-- The text is inside a flow collection. -/
def inFlow (scan : Scan) : Bool :=
  1 < scan.places.length

/-- The number of octets of characters. -/
def octets (characters : List Char) : Nat :=
  characters.foldl (fun count character => count + character.utf8Size) 0

/-- Move over the characters of a source, to a rest. -/
def move (scan : Scan) (source rest : List Char) : Scan :=
  { scan with
    rest := rest
    line := scan.line + (breaks source).length
    column := columnAfter scan.column source
    offset := scan.offset + octets source }

/-- Move over a number of characters. -/
def moveBy (scan : Scan) (count : Nat) : Scan :=
  scan.move (scan.rest.take count) (scan.rest.drop count)

/-- Move to a rest of the text. -/
def moveTo (scan : Scan) (rest : List Char) : Scan :=
  scan.move (scan.rest.take (scan.rest.length - rest.length)) rest

/-- Add a token at the end. -/
def emit (scan : Scan) (token : Token) : Scan :=
  { scan with tokens := scan.tokens ++ [token] }

/-- Put a token at a place among the tokens. -/
def insertAt (scan : Scan) (index : Nat) (token : Token) : Scan :=
  { scan with tokens := scan.tokens.take index ++ token :: scan.tokens.drop index }

/-- Skip blanks, comments and line breaks, and a mark of byte order that starts a line. -/
def skip : Nat → Scan → Scan
  | 0, scan => scan
  | fuel + 1, scan =>
      match scan.rest with
      | [] => scan
      | character :: _ =>
          if character = '\uFEFF' ∧ scan.column = 0 then
            skip fuel (scan.moveBy 1)
          else if character = ' ' ∨ (character = '\t' ∧ (scan.inFlow ∨ !scan.keyAllowed)) then
            skip fuel (scan.moveBy 1)
          else if character = '#' then
            skip fuel (scan.moveTo (scan.rest.dropWhile (!isBreak ·)))
          else if isBreak character then
            skip fuel { scan.moveBy 1 with keyAllowed := scan.keyAllowed || !scan.inFlow }
          else
            scan

/-- The possible key at a place is too far away to be one. -/
def isStale (scan : Scan) (place : KeyPlace) : Bool :=
  place.line < scan.line || place.offset + 1024 < scan.offset

/-- Forget places that are too far away, unless a key is required there. -/
def dropStale? (scan : Scan) : Option Scan := do
  let places ← scan.places.mapM fun place =>
    match place with
    | none => some none
    | some place =>
        if scan.isStale place then
          if place.isRequired then none else some none
        else
          some (some place)
  return { scan with places := places }

/-- Close blocks until one is open that does not start after a column. -/
def unroll (scan : Scan) (column : Int) : Scan :=
  if scan.inFlow then
    scan
  else
    close scan scan.outer
where
  /-- Close blocks, given those around the innermost one. -/
  close (scan : Scan) : List Int → Scan
    | [] => { scan with outer := [] }
    | around :: outer =>
        if column < scan.indent then
          close { scan.emit .blockEnd with indent := around } outer
        else
          { scan with outer := around :: outer }

/-- Open a block at a column, unless the innermost one starts there. -/
def roll (scan : Scan) (column index : Nat) (token : Token) : Scan :=
  if scan.inFlow || column ≤ scan.indent then
    scan
  else
    { scan.insertAt index token with
      indent := column
      outer := scan.indent :: scan.outer }

/-- Forget the possible key at the innermost level, unless it is required. -/
def dropPlace? (scan : Scan) : Option Scan :=
  match scan.places with
  | [] => some scan
  | place :: places =>
      if place.any (·.isRequired) then
        none
      else
        some { scan with places := none :: places }

/-- Remember the current place as that of a possible key. -/
def savePlace? (scan : Scan) : Option Scan :=
  if scan.keyAllowed then do
    let scan ← scan.dropPlace?
    let place : KeyPlace := {
      index := scan.tokens.length
      line := scan.line
      column := scan.column
      offset := scan.offset
      isRequired := !scan.inFlow && scan.indent == scan.column
    }
    return { scan with places := some place :: scan.places.drop 1 }
  else
    some scan

/-- A token that starts or ends a document, of the given length. -/
def documentToken? (scan : Scan) (length : Nat) (token : Token) : Option Scan := do
  let scan ← (scan.unroll (-1)).dropPlace?
  return { (scan.moveBy length).emit token with keyAllowed := false }

/-- A directive. -/
def directive? (scan : Scan) : Option Scan := do
  let line := scan.rest.takeWhile (!isBreak ·)
  let directive ← readDirective? (line.drop 1)
  let scan ← (scan.unroll (-1)).dropPlace?
  return { (scan.moveBy line.length).emit (.directive directive) with keyAllowed := false }

/-- The start of a flow collection. -/
def openFlow? (scan : Scan) (token : Token) : Option Scan := do
  let scan ← scan.savePlace?
  return { (scan.moveBy 1).emit token with
    places := none :: scan.places
    keyAllowed := true }

/-- The end of a flow collection. -/
def closeFlow? (scan : Scan) (token : Token) : Option Scan := do
  let scan ← scan.dropPlace?
  let places := if scan.inFlow then scan.places.drop 1 else scan.places
  return { (scan.moveBy 1).emit token with places := places, keyAllowed := false }

/-- The end of an entry of a flow collection. -/
def flowItem? (scan : Scan) : Option Scan := do
  let scan ← scan.dropPlace?
  return { (scan.moveBy 1).emit .flowEntry with keyAllowed := true }

/-- Open a block at the current column for a token that needs one. -/
def rollHere? (scan : Scan) (token : Token) : Option Scan :=
  if scan.inFlow then
    some scan
  else if scan.keyAllowed then
    some (scan.roll scan.column scan.tokens.length token)
  else
    none

/-- The mark of an item of a block sequence. -/
def blockItem? (scan : Scan) : Option Scan := do
  let scan ← scan.rollHere? .blockSequenceStart
  let scan ← scan.dropPlace?
  return { (scan.moveBy 1).emit .blockEntry with keyAllowed := true }

/-- The mark of a key. -/
def key? (scan : Scan) : Option Scan := do
  let scan ← scan.rollHere? .blockMappingStart
  let scan ← scan.dropPlace?
  return { (scan.moveBy 1).emit .key with keyAllowed := !scan.inFlow }

/-- The mark of a value, which makes a key of the node before it. -/
def value? (scan : Scan) : Option Scan :=
  match scan.places with
  | some place :: places =>
      let scan := scan.insertAt place.index .key
      let scan := scan.roll place.column place.index .blockMappingStart
      some { (scan.moveBy 1).emit .value with
        places := none :: places
        keyAllowed := false }
  | _ => do
      let scan ← scan.rollHere? .blockMappingStart
      return { (scan.moveBy 1).emit .value with keyAllowed := !scan.inFlow }

/-- A character that may follow an anchor's name. -/
def endsName (character : Char) : Bool :=
  isGap character || ['?', ':', ',', ']', '\x7d', '%', '@', '\x60'].contains character

/-- The name of an anchor after its mark. -/
def name? (scan : Scan) (token : String → Token) : Option Scan := do
  let name := (scan.rest.drop 1).takeWhile isNameChar
  let rest := (scan.rest.drop 1).dropWhile isNameChar
  if name.isEmpty || rest.head?.any (!endsName ·) then
    none
  else
    let scan ← scan.savePlace?
    return { (scan.moveTo rest).emit (token (String.ofList name)) with keyAllowed := false }

/-- A tag. -/
def tag? (scan : Scan) : Option Scan := do
  let scan ← scan.savePlace?
  let (tag, rest) ← readTag? scan.inFlow scan.rest
  return { (scan.moveTo rest).emit (.tag tag) with keyAllowed := false }

/-- A block scalar. -/
def block? (scan : Scan) (folded : Bool) : Option Scan := do
  let scan ← scan.dropPlace?
  let (text, rest) ← readBlock? folded scan.indent (scan.rest.drop 1)
  let style := if folded then Style.marked else Style.literal
  return { (scan.moveTo rest).emit (.scalar style (String.ofList text)) with keyAllowed := true }

/-- A scalar in quotation marks. -/
def quoted? (scan : Scan) (mark : Char) : Option Scan := do
  let scan ← scan.savePlace?
  let (text, rest) ← readQuoted? mark scan.rest.length (scan.column + 1) (scan.rest.drop 1)
  return { (scan.moveTo rest).emit (.scalar .marked (String.ofList text)) with keyAllowed := false }

/-- A character that cannot start a plain scalar. -/
def isIndicator (character : Char) : Bool :=
  isGap character ||
    ['-', '?', ':', ',', '[', ']', '\x7b', '\x7d', '#', '&', '*', '!', '|', '>', '\'', '"', '%',
      '@', '\x60'].contains character

/-- A plain scalar can start here. -/
def startsPlain (inFlow : Bool) : List Char → Bool
  | [] => false
  | character :: rest =>
      !isIndicator character ||
        (character == '-' && !rest.head?.any isSpace) ||
        (!inFlow && (character == '?' || character == ':') && !atGap rest)

/-- A plain scalar. -/
def plain? (scan : Scan) : Option Scan := do
  if startsPlain scan.inFlow scan.rest then
    let scan ← scan.savePlace?
    let (written, rest) ←
      readPlain? scan.inFlow (scan.indent + 1).toNat (scan.rest.length + 1) scan.column scan.rest
    return { (scan.move written.source rest).emit (.scalar .plain (String.ofList written.text)) with
      keyAllowed := written.endsLine }
  else
    none

/-- Read the token that starts with the given character. -/
def read? (scan : Scan) (character : Char) (rest : List Char) : Option Scan :=
  if scan.column = 0 ∧ character = '%' then
    scan.directive?
  else if scan.column = 0 ∧ isDocumentMark scan.rest then
    scan.documentToken? 3 (if character = '-' then .documentStart else .documentEnd)
  else if character = '-' ∧ atGap rest then
    scan.blockItem?
  else if character = '?' ∧ (scan.inFlow ∨ atGap rest) then
    scan.key?
  else if character = ':' ∧ (scan.inFlow ∨ atGap rest) then
    scan.value?
  else
    match character with
    | '[' => scan.openFlow? .flowSequenceStart
    | '\x7b' => scan.openFlow? .flowMappingStart
    | ']' => scan.closeFlow? .flowSequenceEnd
    | '\x7d' => scan.closeFlow? .flowMappingEnd
    | ',' => scan.flowItem?
    | '*' => scan.name? .alias
    | '&' => scan.name? .anchor
    | '!' => scan.tag?
    | '\'' => scan.quoted? '\''
    | '"' => scan.quoted? '"'
    | '|' => if scan.inFlow then none else scan.block? false
    | '>' => if scan.inFlow then none else scan.block? true
    | _ => scan.plain?

/-- Read tokens up to the end of the text. -/
def readAll? : Nat → Scan → Option (List Token)
  | 0, _ => none
  | fuel + 1, scan => do
      let scan ← (scan.skip (scan.rest.length + 1)).dropStale?
      match scan.rest with
      | [] =>
          let scan ← (scan.unroll (-1)).dropPlace?
          return scan.tokens
      | character :: rest =>
          let scan ← (scan.unroll scan.column).read? character rest
          readAll? fuel scan

end Scan

/-- A character that may stand in a text. -/
def isPrintable (character : Char) : Bool :=
  let number := character.toNat
  character == '\t' || character == '\n' || character == '\r' || character == '\u0085' ||
    (0x20 ≤ number && number ≤ 0x7E) ||
    (0xA0 ≤ number && number != 0xFFFE && number != 0xFFFF)

/-- The tokens of a text. -/
def tokens? (text : String) : Option (List Token) :=
  let characters := text.toList
  if characters.all isPrintable then
    Scan.readAll? (characters.length + 1) { rest := characters }
  else
    none

end FieldSearch.Yaml
