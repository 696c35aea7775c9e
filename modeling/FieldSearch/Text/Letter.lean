import FieldSearch.Text.LetterTable

namespace FieldSearch.Text

/-!
# Letters and numbers
-/

/-- A letter, or another character with the property Alphabetic. -/
def isAlphabetic (character : Char) : Bool :=
  inRuns alphabeticRuns character

/-- A digit or another character that stands for a number. -/
def isNumeric (character : Char) : Bool :=
  inRuns numericRuns character

end FieldSearch.Text
