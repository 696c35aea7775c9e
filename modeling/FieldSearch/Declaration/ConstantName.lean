import FieldSearch.Text.Case

namespace FieldSearch.Declaration

/-!
# Names of constants

A constant is named after a field in capital letters. An underscore is put
before a capital letter that follows another character, and in the place of
every separator.
-/

/-- A character that is written as an underscore. -/
def isSeparator (character : Char) : Bool :=
  character == '_' || character == '-' || character == '.'

/-- The capital form of characters, given whether an underscore may be needed. -/
def capitalChars : Bool → List Char → List Char
  | _, [] => []
  | afterSmall, character :: rest =>
      if Text.isUppercase character then
        (if afterSmall then ['_', character] else [character]) ++ capitalChars false rest
      else if isSeparator character then
        '_' :: capitalChars false rest
      else
        Text.asciiUpper character :: capitalChars true rest

/-- The name of the constant for a field. -/
def constantName (field : String) : String :=
  String.ofList (capitalChars false field.toList)

end FieldSearch.Declaration
