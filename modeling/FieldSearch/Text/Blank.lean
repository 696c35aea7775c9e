import FieldSearch.Text.Run

namespace FieldSearch.Text

/-!
# Blank characters

The characters with the property White_Space, and the removal of such
characters from the ends of a text.
-/

/-- Characters with the property White_Space. -/
def blankRuns : List Run := [
  ⟨0x9, 0xD, 1⟩, ⟨0x20, 0x20, 1⟩, ⟨0x85, 0x85, 1⟩, ⟨0xA0, 0xA0, 1⟩, ⟨0x1680, 0x1680, 1⟩,
  ⟨0x2000, 0x200A, 1⟩, ⟨0x2028, 0x2029, 1⟩, ⟨0x202F, 0x202F, 1⟩, ⟨0x205F, 0x205F, 1⟩,
  ⟨0x3000, 0x3000, 1⟩]

/-- A character with the property White_Space. -/
def isBlank (character : Char) : Bool :=
  inRuns blankRuns character

/-- Characters without the blank ones at their start. -/
def dropBlanks (characters : List Char) : List Char :=
  characters.dropWhile isBlank

/-- A text without the blank characters at its two ends. -/
def trim (text : String) : String :=
  String.ofList (dropBlanks (dropBlanks text.toList).reverse).reverse

end FieldSearch.Text
