namespace FieldSearch

/-!
# Dotted keys

A search key names a field through its enclosing fields, joined by dots. Every
key has at least one segment; splitting and joining are inverse to each other.
-/

/-- Split a sequence of characters at every occurrence of a separator. -/
def splitChars (separator : Char) : List Char → List (List Char)
  | [] => [[]]
  | character :: rest =>
      if character = separator then
        [] :: splitChars separator rest
      else
        match splitChars separator rest with
        | [] => [[character]]
        | segment :: segments => (character :: segment) :: segments

/-- Split a sequence of characters at the last occurrence of a separator, from the end. -/
def splitLast? (separator : Char) (characters : List Char) : Option (List Char × List Char) :=
  match characters.reverse.span (· != separator) with
  | (_, []) => none
  | (after, _ :: before) => some (before.reverse, after.reverse)

namespace Key

/-- The segments of a key, in order. -/
def segments (key : String) : List String :=
  (splitChars '.' key.toList).map String.ofList

/-- The segments before the last one. -/
def enclosing (key : String) : List String :=
  (segments key).dropLast

/-- The last segment: the name of the field itself. -/
def terminal (key : String) : String :=
  (segments key).getLastD ""

/-- Join segments to a dotted text. -/
def join (parts : List String) : String :=
  ".".intercalate parts

/-- A key is well formed if none of its segments is empty. -/
def wellFormed (key : String) : Bool :=
  (segments key).all (!·.isEmpty)

end Key

end FieldSearch
