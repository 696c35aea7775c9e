import FieldSearch.Yaml.Tag

namespace FieldSearch.Yaml

/-!
# Tokens of YAML

The tokens that a YAML text falls into. Block structure, which the text shows by
indentation, is shown by tokens that open and close blocks.
-/

/-- How a scalar is written. -/
inductive Style where
  /-- Without quotation marks and block header. -/
  | plain
  /-- In quotation marks, or as a block whose lines are folded. -/
  | marked
  /-- As a block whose lines are kept. -/
  | literal
  deriving Repr, DecidableEq

/-- A token of a YAML text. -/
inductive Token where
  | directive (directive : Directive)
  | documentStart
  | documentEnd
  | blockSequenceStart
  | blockMappingStart
  | blockEnd
  | flowSequenceStart
  | flowSequenceEnd
  | flowMappingStart
  | flowMappingEnd
  /-- An item of a block sequence follows. -/
  | blockEntry
  /-- An entry of a flow collection has ended. -/
  | flowEntry
  /-- The key of an entry follows. -/
  | key
  /-- The value of an entry follows. -/
  | value
  /-- The next node gets a name. -/
  | anchor (name : String)
  /-- A node with the given name stands here. -/
  | alias (name : String)
  /-- The next node has a tag. -/
  | tag (tag : WrittenTag)
  | scalar (style : Style) (text : String)
  deriving Repr, DecidableEq

end FieldSearch.Yaml
