import FieldSearch.Json.Basic
import FieldSearch.Numeral

namespace FieldSearch.Json

/-!
# Writing JSON

The compact form of a JSON value: no blanks, and escapes for the characters
that cannot stand in a string.
-/

/-- The digit of a value below sixteen. -/
def hexChar (value : Nat) : Char :=
  Nat.digitChar value

/-- The letter of the short escape that a character may have. -/
def shortEscape? : Char → Option Char
  | '"' => some '"'
  | '\\' => some '\\'
  | '\x08' => some 'b'
  | '\x0c' => some 'f'
  | '\n' => some 'n'
  | '\r' => some 'r'
  | '\t' => some 't'
  | _ => none

/-- A character as it is written inside a string. -/
def escapedChar (character : Char) : List Char :=
  match shortEscape? character with
  | some letter => ['\\', letter]
  | none =>
      if character.toNat < 0x20 then
        ['\\', 'u', '0', '0', hexChar (character.toNat / 16), hexChar (character.toNat % 16)]
      else
        [character]

/-- A text as a JSON string. -/
def stringChars (text : String) : List Char :=
  '"' :: text.toList.flatMap escapedChar ++ ['"']

mutual

/-- The written form of a value; a value without text is written as null. -/
def toChars : Json → List Char
  | null => "null".toList
  | boolean truth => if truth then "true".toList else "false".toList
  | integer number => Numeral.intChars number
  | real numeral => numeral.toList
  | string text => stringChars text
  | array items => '[' :: itemChars items ++ [']']
  | object members => '\x7b' :: memberChars members ++ ['\x7d']
  | unreadable => "null".toList

/-- The items of an array, separated by commas. -/
def itemChars : List Json → List Char
  | [] => []
  | [item] => item.toChars
  | item :: rest => item.toChars ++ ',' :: itemChars rest

/-- The members of an object, separated by commas. -/
def memberChars : List (String × Json) → List Char
  | [] => []
  | [(key, value)] => stringChars key ++ ':' :: value.toChars
  | (key, value) :: rest => stringChars key ++ ':' :: value.toChars ++ ',' :: memberChars rest

end

/-- The written form of a value. -/
def toText (value : Json) : String :=
  String.ofList value.toChars

end FieldSearch.Json
