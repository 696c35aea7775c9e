import FieldSearch.Pattern.Reading

namespace FieldSearch

/-!
# Compiled patterns

A pattern keeps the text it was compiled from, whether letter case counts, the other
options, and the tree that these determine. Whether repetitions match short texts
first is no option here, since it makes no difference to whether there is a match.
-/

/-- A pattern that has been read successfully. -/
structure Pattern where
  source : String
  anyCase : Bool
  options : Pattern.Options
  node : Pattern.Node
  read_eq : Pattern.read? source anyCase options = some node

namespace Pattern

/-- Compile a pattern under options, if its text is valid. -/
def compileWith? (options : Options) (source : String) (anyCase : Bool) : Option Pattern :=
  match read_eq : read? source anyCase options with
  | some node => some {
      source := source
      anyCase := anyCase
      options := options
      node := node
      read_eq := read_eq
    }
  | none => none

/-- Compile a pattern under the options that hold unless others are set. -/
def compile? (source : String) (anyCase : Bool) : Option Pattern :=
  compileWith? {} source anyCase

/-- A pattern matches some part of a text. -/
def isMatch (pattern : Pattern) (text : String) : Bool :=
  pattern.node.matchesIn text

end Pattern

end FieldSearch
