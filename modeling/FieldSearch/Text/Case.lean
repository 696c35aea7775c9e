import FieldSearch.Text.CaseTable

namespace FieldSearch.Text

/-!
# Letter case

Full lower and upper casing of characters and texts, and ASCII lower casing.
Lower casing a text depends on context in one place: a capital sigma at the end
of a word becomes the final form `ς`.
-/

/-- A character with its ASCII capital letters lowered. -/
def asciiLower (character : Char) : Char :=
  if 'A' ≤ character ∧ character ≤ 'Z' then
    Char.ofNat (character.toNat + 32)
  else
    character

/-- A character with its ASCII small letters raised. -/
def asciiUpper (character : Char) : Char :=
  if 'a' ≤ character ∧ character ≤ 'z' then
    Char.ofNat (character.toNat - 32)
  else
    character

/-- A text with its ASCII capital letters lowered and all else unchanged. -/
def asciiLowercase (text : String) : String :=
  String.ofList (text.toList.map asciiLower)

/-- The capital letter whose lower case form has a combining dot. -/
def dottedCapitalI : Char := '\u0130'

/-- Capital sigma. -/
def capitalSigma : Char := '\u03A3'

/-- The form of small sigma inside a word. -/
def smallSigma : Char := '\u03C3'

/-- The form of small sigma at the end of a word. -/
def finalSigma : Char := '\u03C2'

/-- The lower case form of a character taken on its own. -/
def lowerForm (character : Char) : List Char :=
  if character.toNat < 128 then
    [asciiLower character]
  else if character = dottedCapitalI then
    ['i', '\u0307']
  else
    [shifted lowerRules character]

/-- The upper case form of a character. -/
def upperForm (character : Char) : List Char :=
  if character.toNat < 128 then
    [asciiUpper character]
  else
    match upperExpansions.find? (·.1 == character.toNat) with
    | some (_, points) => points.map Char.ofNat
    | none => [shifted upperRules character]

/-- Characters with the property Uppercase. -/
def isUppercase (character : Char) : Bool :=
  inRuns uppercaseRuns character

/-- Characters that take part in case distinctions. -/
def isCased (character : Char) : Bool :=
  inRuns casedRuns character

/-- Characters that the search for a neighbouring cased character skips. -/
def isCaseIgnorable (character : Char) : Bool :=
  inRuns caseIgnorableRuns character

/-- The first character that is not case-ignorable exists and is cased. -/
def startsCased : List Char → Bool
  | [] => false
  | character :: rest =>
      if isCaseIgnorable character then startsCased rest else isCased character

/--
The lower case form of a character between its neighbours: the characters
before it, nearest first, and the characters after it.
-/
def lowerFormIn
    (before : List Char)
    (character : Char)
    (after : List Char) :
    List Char :=
  if character = capitalSigma then
    if startsCased before && !startsCased after then
      [finalSigma]
    else
      [smallSigma]
  else
    lowerForm character

/-- Lower casing of characters that follow the given ones, nearest first. -/
def lowerAfter : List Char → List Char → List Char
  | _, [] => []
  | before, character :: rest =>
      lowerFormIn before character rest ++ lowerAfter (character :: before) rest

/-- Lower casing of a sequence of characters. -/
def lowerChars (characters : List Char) : List Char :=
  lowerAfter [] characters

/-- The lower case form of a text, with the word-final form of sigma. -/
def lowercase (text : String) : String :=
  String.ofList (lowerChars text.toList)

/-- The upper case form of a text. -/
def uppercase (text : String) : String :=
  String.ofList (text.toList.flatMap upperForm)

end FieldSearch.Text
