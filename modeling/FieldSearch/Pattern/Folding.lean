import FieldSearch.Pattern.FoldTable

namespace FieldSearch.Pattern

/-!
# Simple case folding

Characters that differ in case alone have the same representative. Only single
characters are compared, so that `ß` is not the same as `ss`.
-/

/-- The representative of the characters that differ from this one in case. -/
def simpleFold (character : Char) : Char :=
  Text.shifted foldRules character

/-- All characters with the same simple case folding as the given one. -/
def caseVariants (character : Char) : List Char :=
  let folded := simpleFold character
  folded :: foldRules.filterMap fun rule =>
    (rule.preimage? folded.toNat).map Char.ofNat

end FieldSearch.Pattern
