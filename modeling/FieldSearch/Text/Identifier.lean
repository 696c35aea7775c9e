import FieldSearch.Text.IdentifierTable

namespace FieldSearch.Text

/-!
# Identifiers

An identifier is an underscore or a character with the property XID_Start,
followed by characters with the property XID_Continue.
-/

/-- A character with the property XID_Start. -/
def isIdentifierStart (character : Char) : Bool :=
  inRuns identifierStartRuns character

/-- A character with the property XID_Continue. -/
def isIdentifierContinue (character : Char) : Bool :=
  isIdentifierStart character || inRuns identifierTailRuns character

/-- Whether a sequence of characters is an identifier. -/
def isIdentifierChars : List Char → Bool
  | [] => false
  | first :: rest =>
      (first == '_' || isIdentifierStart first) && rest.all isIdentifierContinue

/-- Whether a text is an identifier. -/
def isIdentifier (text : String) : Bool :=
  isIdentifierChars text.toList

end FieldSearch.Text
