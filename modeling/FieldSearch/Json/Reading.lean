import FieldSearch.Json.Basic
import FieldSearch.Numeral

namespace FieldSearch.Json

/-!
# Reading JSON

A reader for JSON texts. Nothing but blanks may follow the value. A string that
escapes one half of a surrogate pair without the other is well formed but has
no text, so it is read as `Json.unreadable`. Arrays and objects may be nested at
any depth, unless the reader of a text is given a limit.
-/

/-- The blanks of JSON. -/
def isSpace (character : Char) : Bool :=
  character == ' ' || character == '\n' || character == '\r' || character == '\t'

/-- Drop the blanks at the start. -/
def skipSpace (characters : List Char) : List Char :=
  characters.dropWhile isSpace

/-- The rest after an expected word. -/
def afterWord? (word : List Char) (characters : List Char) : Option (List Char) :=
  if word.isPrefixOf characters then some (characters.drop word.length) else none

/-- The character of an escape of one letter. -/
def simpleEscape? : Char → Option Char
  | '"' => some '"'
  | '\\' => some '\\'
  | '/' => some '/'
  | 'b' => some '\x08'
  | 'f' => some '\x0c'
  | 'n' => some '\n'
  | 'r' => some '\r'
  | 't' => some '\t'
  | _ => none

/-- The code units that the body of a string stands for, up to its end mark. -/
def readUnits? : List Char → Option (List Nat × List Char)
  | '"' :: rest => some ([], rest)
  | '\\' :: 'u' :: first :: second :: third :: fourth :: rest => do
      let unit ← Numeral.hexToNat? [first, second, third, fourth]
      let (units, rest) ← readUnits? rest
      return (unit :: units, rest)
  | '\\' :: mark :: rest => do
      let character ← simpleEscape? mark
      let (units, rest) ← readUnits? rest
      return (character.toNat :: units, rest)
  | character :: rest =>
      if character.toNat < 0x20 then
        none
      else do
        let (units, rest) ← readUnits? rest
        return (character.toNat :: units, rest)
  | [] => none

/-- The first half of a surrogate pair. -/
def isHighHalf (unit : Nat) : Bool :=
  0xD800 ≤ unit && unit < 0xDC00

/-- The second half of a surrogate pair. -/
def isLowHalf (unit : Nat) : Bool :=
  0xDC00 ≤ unit && unit < 0xE000

/-- The character that two halves stand for. -/
def joinHalves (high low : Nat) : Char :=
  Char.ofNat (0x10000 + (high - 0xD800) * 0x400 + (low - 0xDC00))

/-- The characters of code units; none if a half stands alone. -/
def charsOfUnits? : List Nat → Option (List Char)
  | [] => some []
  | high :: low :: rest =>
      if isHighHalf high then
        if isLowHalf low then
          (charsOfUnits? rest).map (joinHalves high low :: ·)
        else
          none
      else if isLowHalf high then
        none
      else
        (charsOfUnits? (low :: rest)).map (Char.ofNat high :: ·)
  | [unit] =>
      if isHighHalf unit || isLowHalf unit then none else some [Char.ofNat unit]

/-- The string of code units. -/
def ofUnits (units : List Nat) : Json :=
  match charsOfUnits? units with
  | some characters => string (String.ofList characters)
  | none => unreadable

/-- Digits at the start, of which there has to be at least one. -/
def readDigits? (characters : List Char) : Option (List Char × List Char) :=
  let digits := characters.takeWhile Char.isDigit
  if digits.isEmpty then none else some (digits, characters.dropWhile Char.isDigit)

/-- The integer part of a numeral, which starts with zero only if it is zero. -/
def readWhole? : List Char → Option (List Char × List Char)
  | '0' :: rest => if (rest.head?.any Char.isDigit) then none else some (['0'], rest)
  | characters => readDigits? characters

/-- The fraction of a numeral, possibly absent. -/
def readFraction? : List Char → Option (List Char × List Char)
  | '.' :: rest => do
      let (digits, rest) ← readDigits? rest
      return ('.' :: digits, rest)
  | characters => some ([], characters)

/-- The sign of an exponent, possibly absent. -/
def splitExponentSign : List Char → List Char × List Char
  | '+' :: rest => (['+'], rest)
  | '-' :: rest => (['-'], rest)
  | characters => ([], characters)

/-- The exponent of a numeral, possibly absent. -/
def readExponent? : List Char → Option (List Char × List Char)
  | mark :: rest =>
      if mark = 'e' ∨ mark = 'E' then do
        let (sign, rest) := splitExponentSign rest
        let (digits, rest) ← readDigits? rest
        return (mark :: sign ++ digits, rest)
      else
        some ([], mark :: rest)
  | [] => some ([], [])

/-- The number of a numeral given in parts. -/
def ofNumeral (negative : Bool) (whole fraction exponent : List Char) : Json :=
  let magnitude := Numeral.digitsToNat whole
  if fraction.isEmpty && exponent.isEmpty && !(negative && magnitude == 0) then
    integer (if negative then -magnitude else magnitude)
  else
    let sign := if negative then ['-'] else []
    real (String.ofList (sign ++ whole ++ fraction ++ exponent))

/-- A number after its sign. -/
def readMagnitude? (negative : Bool) (characters : List Char) : Option (Json × List Char) := do
  let (whole, rest) ← readWhole? characters
  let (fraction, rest) ← readFraction? rest
  let (exponent, rest) ← readExponent? rest
  return (ofNumeral negative whole fraction exponent, rest)

/-- A number. -/
def readNumber? : List Char → Option (Json × List Char)
  | '-' :: rest => readMagnitude? true rest
  | characters => readMagnitude? false characters

/-- A member whose key can be read. -/
def readableMember? : Json × Json → Option (String × Json)
  | (key, value) => key.text?.map (·, value)

/-- An object; unreadable if one of its keys is. -/
def ofMembers (members : List (Json × Json)) : Json :=
  match members.mapM readableMember? with
  | some members => object members
  | none => unreadable

mutual

/-- A value, with a bound on the depth of calls. -/
def readValue? : Nat → List Char → Option (Json × List Char)
  | 0, _ => none
  | fuel + 1, characters =>
      match skipSpace characters with
      | '"' :: rest => (readUnits? rest).map fun (units, rest) => (ofUnits units, rest)
      | '[' :: rest =>
          match skipSpace rest with
          | ']' :: rest => some (array [], rest)
          | rest => (readItems? fuel rest).map fun (items, rest) => (array items, rest)
      | '\x7b' :: rest =>
          match skipSpace rest with
          | '\x7d' :: rest => some (object [], rest)
          | rest => (readMembers? fuel rest).map fun (members, rest) => (ofMembers members, rest)
      | 'n' :: rest => (afterWord? "ull".toList rest).map (null, ·)
      | 't' :: rest => (afterWord? "rue".toList rest).map (boolean true, ·)
      | 'f' :: rest => (afterWord? "alse".toList rest).map (boolean false, ·)
      | rest => readNumber? rest

/-- The items of an array up to its end, of which there is at least one. -/
def readItems? : Nat → List Char → Option (List Json × List Char)
  | 0, _ => none
  | fuel + 1, characters => do
      let (item, rest) ← readValue? fuel characters
      match skipSpace rest with
      | ',' :: rest => do
          let (items, rest) ← readItems? fuel rest
          return (item :: items, rest)
      | ']' :: rest => return ([item], rest)
      | _ => none

/-- The members of an object up to its end, of which there is at least one. -/
def readMembers? : Nat → List Char → Option (List (Json × Json) × List Char)
  | 0, _ => none
  | fuel + 1, characters =>
      match skipSpace characters with
      | '"' :: rest => do
          let (units, rest) ← readUnits? rest
          match skipSpace rest with
          | ':' :: rest => do
              let (value, rest) ← readValue? fuel rest
              match skipSpace rest with
              | ',' :: rest => do
                  let (members, rest) ← readMembers? fuel rest
                  return ((ofUnits units, value) :: members, rest)
              | '\x7d' :: rest => return ([(ofUnits units, value)], rest)
              | _ => none
          | _ => none
      | _ => none

end

/-- The value that a text stands for. -/
def ofString? (text : String) : Option Json := do
  let characters := text.toList
  let (value, rest) ← readValue? (2 * characters.length + 1) characters
  if (skipSpace rest).isEmpty then some value else none

/-- The levels of arrays and objects that a reader takes unless it is told otherwise. -/
def maxLevels : Nat := 127

/-- The value that a text stands for, if it has no more levels than the reader may take. -/
def decode? (limit : Option Nat) (text : String) : Option Json := do
  let value ← ofString? text
  if limit.all (value.levels ≤ ·) then some value else none

end FieldSearch.Json
