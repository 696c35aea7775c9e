namespace FieldSearch

/-!
# JSON values

A JSON value as it stands in a text: the members of an object keep their order
and their repetitions, and a number is an integer or it is kept as its numeral.
-/

/-- A JSON value. -/
inductive Json where
  | null
  | boolean (truth : Bool)
  /-- A number without fraction and exponent; minus zero is not one. -/
  | integer (number : Int)
  /-- Any other number, as its numeral. -/
  | real (numeral : String)
  | string (text : String)
  | array (items : List Json)
  | object (members : List (String × Json))
  /-- A string, or an object with a key, that escapes half a character. -/
  | unreadable
  deriving Repr

namespace Json

/-- The value of the first member with the given key. -/
def memberOf? (key : String) : List (String × Json) → Option Json
  | [] => none
  | (name, value) :: rest => if name = key then some value else memberOf? key rest

/-- The value of the first member of an object with the given key. -/
def member? (key : String) : Json → Option Json
  | object members => memberOf? key members
  | _ => none

/-- The text of a string. -/
def text? : Json → Option String
  | string text => some text
  | _ => none

/-- The texts of an array of strings. -/
def texts? : Json → Option (List String)
  | array items => items.mapM text?
  | _ => none

mutual

/-- How deeply arrays and objects are nested in a value. -/
def levels : Json → Nat
  | array items => itemLevels items + 1
  | object members => memberLevels members + 1
  | _ => 0

/-- How deeply arrays and objects are nested in some values. -/
def itemLevels : List Json → Nat
  | [] => 0
  | item :: rest => max item.levels (itemLevels rest)

/-- How deeply arrays and objects are nested in the values of members. -/
def memberLevels : List (String × Json) → Nat
  | [] => 0
  | (_, value) :: rest => max value.levels (memberLevels rest)

end

end Json

end FieldSearch
