import FieldSearch.Numeral

namespace FieldSearch.Yaml

/-!
# Scalars of YAML

The three ways to write a scalar: plain, in quotation marks, and as a block.
A plain or quoted scalar may run over several lines. Its line breaks are folded:
a single one becomes a space, and of several the first is dropped.
-/

/-- A blank inside a line. -/
def isSpace (character : Char) : Bool :=
  character == ' ' || character == '\t'

/-- A line break. -/
def isBreak (character : Char) : Bool :=
  character == '\n' || character == '\r' || character == '\u0085' ||
    character == '\u2028' || character == '\u2029'

/-- A character that ends a word. -/
def isGap (character : Char) : Bool :=
  isSpace character || isBreak character

/-- The end of a word, or of the text, is next. -/
def atGap : List Char → Bool
  | [] => true
  | character :: _ => isGap character

/-- A mark between the items of a flow collection, or at one of its ends. -/
def isFlowMark (character : Char) : Bool :=
  [',', '[', ']', '\x7b', '\x7d'].contains character

/-- A line that starts or ends a document. -/
def isDocumentMark : List Char → Bool
  | '-' :: '-' :: '-' :: rest => atGap rest
  | '.' :: '.' :: '.' :: rest => atGap rest
  | _ => false

/-- The breaks among characters; most of them become line feeds. -/
def breaks : List Char → List Char
  | '\r' :: '\n' :: rest => '\n' :: breaks rest
  | character :: rest =>
      if character = '\r' ∨ character = '\u0085' then
        '\n' :: breaks rest
      else if isBreak character then
        character :: breaks rest
      else
        breaks rest
  | [] => []

/-- The text of breaks within a scalar. -/
def foldBreaks : List Char → List Char
  | ['\n'] => [' ']
  | '\n' :: rest => rest
  | characters => characters

/-- The text of a gap within a scalar: its blanks, or its breaks folded. -/
def foldGap (gap : List Char) : List Char :=
  if gap.any isBreak then foldBreaks (breaks gap) else gap

/-- The column after the characters of a gap. -/
def columnAfter (column : Nat) : List Char → Nat
  | [] => column
  | character :: rest => columnAfter (if isBreak character then 0 else column + 1) rest

/-- Split the characters at the start that form a gap. -/
def splitGap (characters : List Char) : List Char × List Char :=
  (characters.takeWhile isGap, characters.dropWhile isGap)

/-- A tab stands where a line should be indented. -/
def tabInIndent (indent : Nat) : Bool → Nat → List Char → Bool
  | _, _, [] => false
  | onNewLine, column, character :: rest =>
      if isBreak character then
        tabInIndent indent true 0 rest
      else
        (onNewLine && column < indent && character == '\t') ||
          tabInIndent indent onNewLine (column + 1) rest

/-- A character before which a colon has no meaning in a flow collection. -/
def confusesColon (character : Char) : Bool :=
  character == '?' || isFlowMark character

/-- A word of a plain scalar; none if a colon stands before a flow mark. -/
def plainWord? (inFlow : Bool) : List Char → Option (List Char × List Char)
  | [] => some ([], [])
  | character :: rest =>
      if isGap character || (inFlow && isFlowMark character) then
        some ([], character :: rest)
      else if character = ':' ∧ atGap rest then
        some ([], character :: rest)
      else if inFlow && character == ':' && rest.head?.any confusesColon then
        none
      else
        (plainWord? inFlow rest).map fun (word, rest) => (character :: word, rest)

/-- A scalar that has been read, and whether a line break comes after it. -/
structure Written where
  text : List Char
  /-- The characters of the source, for finding the place after them. -/
  source : List Char
  endsLine : Bool := false

/--
Read a plain scalar from a word on: a word, a gap and what continues it. A gap
that does not lead to a continuation still belongs to the source.
-/
def readPlain?
    (inFlow : Bool)
    (indent : Nat) :
    Nat →
    Nat →
    List Char →
    Option (Written × List Char)
  | 0, _, _ => none
  | fuel + 1, column, characters => do
      let (word, rest) ← plainWord? inFlow characters
      let (gap, after) := splitGap rest
      let next := columnAfter (column + word.length) gap
      if word.isEmpty then
        return ({ text := [], source := [] }, characters)
      else if gap.isEmpty then
        return ({ text := word, source := word }, rest)
      else if tabInIndent indent false (column + word.length) gap then
        none
      else
        let ended := (!inFlow && next < indent) || after.isEmpty || after.head? == some '#' ||
          (next == 0 && isDocumentMark after)
        let stop : Written × List Char :=
          ({ text := word, source := word ++ gap, endsLine := gap.any isBreak }, after)
        if ended then
          return stop
        else
          let (more, rest) ← readPlain? inFlow indent fuel next after
          if more.text.isEmpty then
            return stop
          else
            return ({ more with
              text := word ++ foldGap gap ++ more.text
              source := word ++ gap ++ more.source }, rest)

/-- A run of characters in single quotation marks, up to a gap or the end mark. -/
def singleRun : List Char → List Char × List Char
  | '\'' :: '\'' :: rest =>
      let (run, rest) := singleRun rest
      ('\'' :: run, rest)
  | character :: rest =>
      if character = '\'' ∨ isGap character then
        ([], character :: rest)
      else
        let (run, rest) := singleRun rest
        (character :: run, rest)
  | [] => ([], [])

/-- The character of an escape of one letter. -/
def simpleEscape? : Char → Option Char
  | '0' => some '\x00'
  | 'a' => some '\x07'
  | 'b' => some '\x08'
  | 't' => some '\t'
  | '\t' => some '\t'
  | 'n' => some '\n'
  | 'v' => some '\x0b'
  | 'f' => some '\x0c'
  | 'r' => some '\r'
  | 'e' => some '\x1b'
  | ' ' => some ' '
  | '"' => some '"'
  | '/' => some '/'
  | '\\' => some '\\'
  | 'N' => some '\u0085'
  | '_' => some '\u00a0'
  | 'L' => some '\u2028'
  | 'P' => some '\u2029'
  | _ => none

/-- The number of digits in a numbered escape. -/
def escapeDigits? : Char → Option Nat
  | 'x' => some 2
  | 'u' => some 4
  | 'U' => some 8
  | _ => none

/-- The character of an escape, and the number of characters after its mark. -/
def readEscape? (mark : Char) (rest : List Char) : Option (Char × Nat) :=
  match escapeDigits? mark with
  | some count =>
      let digits := rest.take count
      if digits.length = count then
        (Numeral.charOfHex? digits).map (·, count)
      else
        none
  | none => (simpleEscape? mark).map (·, 0)

/--
A run of characters in double quotation marks, up to a gap, the end mark or an
escaped line break, with a bound on its length.
-/
def doubleRun? : Nat → List Char → Option (List Char × List Char)
  | 0, _ => none
  | fuel + 1, characters =>
      match characters with
      | '\\' :: mark :: rest =>
          if isBreak mark then
            some ([], '\\' :: mark :: rest)
          else do
            let (character, count) ← readEscape? mark rest
            let (run, rest) ← doubleRun? fuel (rest.drop count)
            return (character :: run, rest)
      | character :: rest =>
          if character = '"' ∨ isGap character then
            some ([], character :: rest)
          else do
            let (run, rest) ← doubleRun? fuel rest
            return (character :: run, rest)
      | [] => some ([], [])

/-- A run of characters in quotation marks. -/
def quotedRun? (mark : Char) (characters : List Char) : Option (List Char × List Char) :=
  if mark = '"' then
    doubleRun? (characters.length + 1) characters
  else
    some (singleRun characters)

/-- The text of a gap after an escaped line break: breaks after the first one. -/
def escapedGap (gap : List Char) : List Char :=
  (breaks gap).drop 1

/-- Read a scalar in quotation marks up to its end mark, from a column on. -/
def readQuoted?
    (mark : Char) :
    Nat →
    Nat →
    List Char →
    Option (List Char × List Char)
  | 0, _, _ => none
  | fuel + 1, column, characters => do
      if column == 0 && isDocumentMark characters then
        none
      else
        let (run, rest) ← quotedRun? mark characters
        match rest with
        | [] => none
        | character :: rest =>
            if character = mark then
              return (run, rest)
            else
              let escaped := character == '\\'
              let (gap, after) := splitGap (if escaped then rest else character :: rest)
              let next := if gap.any isBreak then columnAfter 0 gap else 1
              let (more, rest) ← readQuoted? mark fuel next after
              let filler := if escaped then escapedGap gap else foldGap gap
              return (run ++ filler ++ more, rest)

/-- What becomes of the line breaks at the end of a block. -/
inductive Chomping where
  | strip
  | clip
  | keep
  deriving Repr, DecidableEq

/-- The header of a block: its chomping and its indentation, if it is given. -/
structure BlockHeader where
  chomping : Chomping := .clip
  indent : Option Nat := none

/-- Read the marks of a block header, each at most once. -/
def readHeader? : BlockHeader → List Char → Option (BlockHeader × List Char)
  | header, '+' :: rest =>
      if header.chomping = .clip then readHeader? { header with chomping := .keep } rest else none
  | header, '-' :: rest =>
      if header.chomping = .clip then readHeader? { header with chomping := .strip } rest else none
  | header, character :: rest =>
      if character.isDigit then
        if header.indent.isNone && character != '0' then
          readHeader? { header with indent := some (character.toNat - '0'.toNat) } rest
        else
          none
      else
        some (header, character :: rest)
  | header, [] => some (header, [])

/-- Drop a line break. -/
def dropBreak : List Char → List Char
  | '\r' :: '\n' :: rest => rest
  | character :: rest => if isBreak character then rest else character :: rest
  | [] => []

/-- Drop the rest of a header's line; none if more than a comment is on it. -/
def endHeader? (characters : List Char) : Option (List Char) :=
  let rest := characters.dropWhile isSpace
  let rest := if rest.head? == some '#' then rest.dropWhile (!isBreak ·) else rest
  match rest with
  | [] => some []
  | character :: _ => if isBreak character then some (dropBreak rest) else none

/--
Skip indentation and empty lines: the breaks skipped, the largest indentation
seen, the column reached and the rest. An unknown indentation has no limit.
-/
def skipLines
    (indent : Option Nat) :
    Nat →
    Nat →
    Nat →
    List Char →
    List Char × Nat × Nat × List Char
  | 0, most, column, characters => ([], most, column, characters)
  | fuel + 1, most, column, characters =>
      match characters with
      | ' ' :: rest =>
          if indent.all (column < ·) then
            skipLines indent fuel (max most (column + 1)) (column + 1) rest
          else
            ([], most, column, characters)
      | character :: _ =>
          if isBreak character then
            let (lines, most, column, rest) := skipLines indent fuel most 0 (dropBreak characters)
            (breaks [character] ++ lines, most, column, rest)
          else
            ([], most, column, characters)
      | [] => ([], most, column, [])

/-- The text before a line of a folded block: its own break and the empty lines. -/
def joinFolded (lineBreak empty : List Char) (firstBlank nextBlank : Bool) : List Char :=
  if lineBreak == ['\n'] && !firstBlank && !nextBlank then
    if empty.isEmpty then [' '] else empty
  else
    lineBreak ++ empty

/-- The breaks at the end of a block that belong to its text. -/
def chomp (chomping : Chomping) (lineBreak empty : List Char) : List Char :=
  match chomping with
  | .strip => []
  | .clip => lineBreak
  | .keep => lineBreak ++ empty

/--
Read the lines of a block, given the break of the line before and the empty
lines after it. The block ends at a line with another indentation.
-/
def readLines
    (folded : Bool)
    (chomping : Chomping)
    (indent : Nat) :
    Nat →
    Bool →
    List Char →
    List Char →
    Nat →
    List Char →
    List Char × List Char
  | 0, _, _, _, _, characters => ([], characters)
  | fuel + 1, blankBefore, lineBreak, empty, column, characters =>
      if column = indent ∧ !characters.isEmpty then
        let blank := characters.head?.any isSpace
        let filler :=
          if folded then joinFolded lineBreak empty blankBefore blank else lineBreak ++ empty
        let line := characters.takeWhile (!isBreak ·)
        let rest := characters.dropWhile (!isBreak ·)
        let lineBreak := breaks (rest.take 1)
        let (empty, _, column, rest) :=
          skipLines (some indent) rest.length 0 0 (dropBreak rest)
        let (more, rest) := readLines folded chomping indent fuel blank lineBreak empty column rest
        (filler ++ line ++ more, rest)
      else
        (chomp chomping lineBreak empty, characters)

/-- Read a block after its mark, inside a block with the given indentation. -/
def readBlock?
    (folded : Bool)
    (outer : Int)
    (characters : List Char) :
    Option (List Char × List Char) := do
  let (header, rest) ← readHeader? {} characters
  let rest ← endHeader? rest
  let known := header.indent.map fun count => (max outer 0).toNat + count
  let (empty, most, column, rest) := skipLines known rest.length 0 0 rest
  let indent := known.getD (max most (max (outer + 1) 1).toNat)
  if rest.head? == some '\t' && known.all (column < ·) then
    none
  else
    return readLines folded header.chomping indent (rest.length + 1) false [] empty column rest

end FieldSearch.Yaml
