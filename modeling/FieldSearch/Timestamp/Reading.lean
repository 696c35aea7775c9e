import FieldSearch.Text.Blank
import FieldSearch.Timestamp.Basic

namespace FieldSearch.Timestamp

/-!
# Reading timestamps

Three kinds of notation are tried in order: the strict one, then dates with a time of
day, then dates alone. The strict notation has fixed widths and ends with an offset
from UTC. The others are given by formats; they have no offset and mean UTC, and a
date alone means its midnight. Where a format has a number, the number may be shorter
than its width and blanks may stand before it. A second numbered 60 counts as one
past 59, and fractions of a second are cut to milliseconds.
-/

/-- Take digits off the front, at most as many as a limit allows. -/
def spanDigits : Nat → List Char → List Char × List Char
  | limit + 1, character :: rest =>
      if character.isDigit then
        let (digits, rest) := spanDigits limit rest
        (character :: digits, rest)
      else
        ([], character :: rest)
  | _, characters => ([], characters)

/-- Read a number of at least and at most so many digits. -/
def readNumber?
    (least most : Nat)
    (characters : List Char) :
    Option (Nat × List Char) :=
  let (digits, rest) := spanDigits most characters
  if least ≤ digits.length then
    some (Nat.ofDigitChars 10 digits 0, rest)
  else
    none

/-- Pass one expected character. -/
def expect? (expected : Char) : List Char → Option (List Char)
  | character :: rest => if character = expected then some rest else none
  | [] => none

/-- A time of day. -/
structure ClockTime where
  hour : Nat
  minute : Nat
  second : Nat
  /-- Milliseconds of the second. -/
  milli : Nat
  deriving Repr, DecidableEq

/-- The time of day exists, the sixty-first second of a minute included. -/
def ClockTime.isValid (time : ClockTime) : Bool :=
  time.hour ≤ 23 && time.minute ≤ 59 && time.second ≤ 60

/-- Milliseconds since midnight. -/
def ClockTime.toMillis (time : ClockTime) : Int :=
  time.hour * 3600000 + time.minute * 60000 + time.second * 1000 + time.milli

/-- The point at a date and time of day, some minutes ahead of UTC. -/
def ofLocal? (date : Date) (time : ClockTime) (offset : Int) : Option Timestamp :=
  if date.isValid && time.isValid then
    ofMillis? (date.toDays * millisPerDay + time.toMillis - offset * 60000)
  else
    none

/-- Milliseconds from the digits of a fraction of a second. -/
def fractionMillis (digits : List Char) : Nat :=
  let leading := digits.take 3
  Nat.ofDigitChars 10 leading 0 * Nat.pow 10 (3 - leading.length)

/-- Read the fraction of a second, if a point begins one. -/
def readFraction? : List Char → Option (Nat × List Char)
  | '.' :: rest =>
      let digits := rest.takeWhile Char.isDigit
      if digits.isEmpty then
        none
      else
        some (fractionMillis digits, rest.dropWhile Char.isDigit)
  | characters => some (0, characters)

/-- The minus sign of typography, which offsets may use in place of a hyphen. -/
def minusSign : Char := '\u2212'

/-- Read hours and minutes of an offset, as minutes. -/
def readOffsetMinutes? (characters : List Char) : Option (Int × List Char) := do
  let (hours, rest) ← readNumber? 2 2 characters
  let rest ← expect? ':' rest
  let (minutes, rest) ← readNumber? 2 2 rest
  if hours ≤ 23 ∧ minutes ≤ 59 then
    some ((hours * 60 + minutes : Nat), rest)
  else
    none

/-- Read an offset from UTC, in minutes. -/
def readOffset? : List Char → Option (Int × List Char)
  | [] => none
  | character :: rest =>
      if character = 'Z' ∨ character = 'z' then
        some (0, rest)
      else if character = '+' then
        readOffsetMinutes? rest
      else if character = '-' ∨ character = minusSign then
        (readOffsetMinutes? rest).map fun (minutes, rest) => (-minutes, rest)
      else
        none

/-- A character that may stand between date and time in the strict notation. -/
def isTimeMark (character : Char) : Bool :=
  character == 'T' || character == 't' || character == ' '

/-- Read the strict notation. -/
def readStrict? (characters : List Char) : Option Timestamp := do
  let (year, rest) ← readNumber? 4 4 characters
  let (month, rest) ← readNumber? 2 2 (← expect? '-' rest)
  let (day, rest) ← readNumber? 2 2 (← expect? '-' rest)
  let (mark, rest) ← rest.head?.map fun mark => (mark, rest.tail)
  if isTimeMark mark then
    let (hour, rest) ← readNumber? 2 2 rest
    let (minute, rest) ← readNumber? 2 2 (← expect? ':' rest)
    let (second, rest) ← readNumber? 2 2 (← expect? ':' rest)
    let (milli, rest) ← readFraction? rest
    let (offset, rest) ← readOffset? rest
    if rest.isEmpty then
      ofLocal? ⟨year, month, day⟩ ⟨hour, minute, second, milli⟩ offset
    else
      none
  else
    none

/-- Read a number of at most two digits, after blanks. -/
def readShort? (characters : List Char) : Option (Nat × List Char) :=
  readNumber? 1 2 (Text.dropBlanks characters)

/-- Read a year, after blanks; a sign allows for any number of digits. -/
def readYear? (characters : List Char) : Option (Int × List Char) :=
  match Text.dropBlanks characters with
  | '-' :: rest =>
      (readNumber? 1 rest.length rest).map fun (year, rest) => (-year, rest)
  | '+' :: rest =>
      (readNumber? 1 rest.length rest).map fun (year, rest) => (year, rest)
  | rest => (readNumber? 1 4 rest).map fun (year, rest) => (year, rest)

/-! Formats. -/

/-- What a format has at one place. -/
inductive FormatItem where
  | year
  | month
  | day
  | hour
  | minute
  | second
  /-- The fraction of a second, which may be left out. -/
  | fraction
  /-- Any number of blanks. -/
  | blanks
  /-- This character. -/
  | literal (character : Char)
  deriving Repr, DecidableEq

/-- The number that a letter after a percent sign stands for. -/
def FormatItem.ofLetter? : Char → Option FormatItem
  | 'Y' => some .year
  | 'm' => some .month
  | 'd' => some .day
  | 'H' => some .hour
  | 'M' => some .minute
  | 'S' => some .second
  | _ => none

/-- The items of a format as it is written. -/
def formatItems? : List Char → Option (List FormatItem)
  | [] => some []
  | ['%'] => none
  | '%' :: '.' :: 'f' :: rest => do
      return .fraction :: (← formatItems? rest)
  | '%' :: letter :: rest => do
      return (← FormatItem.ofLetter? letter) :: (← formatItems? rest)
  | character :: rest => do
      let item := if Text.isBlank character then .blanks else .literal character
      return item :: (← formatItems? rest)

/-- The numbers that have been read by a format. -/
structure Parts where
  year : Option Int := none
  month : Option Nat := none
  day : Option Nat := none
  hour : Option Nat := none
  minute : Option Nat := none
  second : Option Nat := none
  milli : Option Nat := none
  deriving Repr, DecidableEq

/-- The date, if all of its numbers have been read. -/
def Parts.date? (parts : Parts) : Option Date := do
  return ⟨← parts.year, ← parts.month, ← parts.day⟩

/-- The time of day, if all of its numbers have been read; it needs no fraction. -/
def Parts.clockTime? (parts : Parts) : Option ClockTime := do
  return ⟨← parts.hour, ← parts.minute, ← parts.second, parts.milli.getD 0⟩

/-- Read what one item stands for. -/
def readItem?
    (item : FormatItem)
    (parts : Parts)
    (characters : List Char) :
    Option (Parts × List Char) :=
  match item with
  | .year =>
      (readYear? characters).map fun (year, rest) => ({ parts with year := year }, rest)
  | .month =>
      (readShort? characters).map fun (month, rest) => ({ parts with month := month }, rest)
  | .day =>
      (readShort? characters).map fun (day, rest) => ({ parts with day := day }, rest)
  | .hour =>
      (readShort? characters).map fun (hour, rest) => ({ parts with hour := hour }, rest)
  | .minute =>
      (readShort? characters).map fun (minute, rest) => ({ parts with minute := minute }, rest)
  | .second =>
      (readShort? characters).map fun (second, rest) => ({ parts with second := second }, rest)
  | .fraction =>
      (readFraction? characters).map fun (milli, rest) => ({ parts with milli := milli }, rest)
  | .blanks => some (parts, Text.dropBlanks characters)
  | .literal expected => (expect? expected characters).map fun rest => (parts, rest)

/-- Read what the items of a format stand for, one after the other. -/
def readItems? :
    List FormatItem →
    Parts →
    List Char →
    Option (Parts × List Char)
  | [], parts, characters => some (parts, characters)
  | item :: items, parts, characters => do
      let (parts, rest) ← readItem? item parts characters
      readItems? items parts rest

/-- Read all of a text by a format. -/
def readFormat? (format : String) (characters : List Char) : Option Parts := do
  let items ← formatItems? format.toList
  let (parts, rest) ← readItems? items {} characters
  if rest.isEmpty then some parts else none

/-- A date and a time of day with a mark between them. -/
def markedFormat : String := "%Y-%m-%dT%H:%M:%S%.f"

/-- A date and a time of day with a space between them. -/
def spacedFormat : String := "%Y-%m-%d %H:%M:%S%.f"

/-- The formats of a date and a time of day, in the order in which they are tried. -/
def dateTimeFormats : List String := [markedFormat, spacedFormat]

/-- The format of a date alone. -/
def dateFormat : String := "%Y-%m-%d"

/-- Read a date and a time of day by a format. -/
def readDateTime? (characters : List Char) (format : String) : Option Timestamp := do
  let parts ← readFormat? format characters
  ofLocal? (← parts.date?) (← parts.clockTime?) 0

/-- Read a date by a format, as its midnight. -/
def readMidnight? (characters : List Char) (format : String) : Option Timestamp := do
  let parts ← readFormat? format characters
  ofLocal? (← parts.date?) ⟨0, 0, 0, 0⟩ 0

/-- Read a point in time in the first notation that it is in. -/
def ofString? (text : String) : Option Timestamp :=
  let characters := text.toList
  readStrict? characters <|>
    dateTimeFormats.findSome? (readDateTime? characters) <|>
      readMidnight? characters dateFormat

end FieldSearch.Timestamp
