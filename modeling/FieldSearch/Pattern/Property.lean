import FieldSearch.Numeral
import FieldSearch.Pattern.AgeTable
import FieldSearch.Pattern.BreakTable
import FieldSearch.Pattern.CategoryTable
import FieldSearch.Pattern.CharClass
import FieldSearch.Pattern.PropertyTable
import FieldSearch.Pattern.ScriptTable
import FieldSearch.Text.Blank

namespace FieldSearch.Pattern

/-!
# Named character classes

The classes that patterns name by a property of characters: general categories,
scripts, yes-or-no properties, ages and places where texts are cut. Names are
compared without regard to case, blanks, hyphens and underscores, and a leading
`is` is ignored.
-/

/-- The value of hexadecimal digits, and zero for anything else. -/
def hexValue (characters : List Char) : Nat :=
  (Numeral.hexToNat? characters).getD 0

/-- Read one run of a table. -/
def readRun (word : List Char) : Text.Run :=
  let bounds := word.takeWhile (· != '/')
  let first := bounds.takeWhile (· != '-')
  let last := (bounds.dropWhile (· != '-')).drop 1
  let stride := (word.dropWhile (· != '/')).drop 1
  { first := hexValue first
    last := if last.isEmpty then hexValue first else hexValue last
    stride := if stride.isEmpty then 1 else hexValue stride }

/-- The words of a text, separated by blanks and line ends. -/
def words (characters : List Char) : List (List Char) :=
  let (current, done) := characters.foldr
    (fun character (current, done) =>
      if character = ' ' ∨ character = '\n' then
        ([], if current.isEmpty then done else current :: done)
      else
        (character :: current, done))
    (([], []) : List Char × List (List Char))
  if current.isEmpty then done else current :: done

/-- Read the runs of a table entry. -/
def readRuns (text : String) : CharClass :=
  .runs ((words text.toList).map readRun)

/-- Look up an entry of a table by any of its names. -/
def classIn? (table : List (List String × String)) (name : String) : Option CharClass :=
  (table.find? fun (names, _) => names.contains name).map fun (_, text) => readRuns text

/-- The union of categories given by their short names. -/
def categories (names : List String) : CharClass :=
  .unionAll (names.filterMap (classIn? categoryTexts))

/-- The characters that are not assigned. -/
def unassigned : CharClass :=
  .diff (.complement (.unionAll (categoryTexts.map fun (_, text) => readRuns text)))
    (.range 0xD800 0xDFFF)

/-- A general category, or a group of them. -/
def category? (name : String) : Option CharClass :=
  match name with
  | "any" => some .all
  | "ascii" => some (.range 0 0x7F)
  | "assigned" => some (.complement unassigned)
  | "cn" | "unassigned" => some unassigned
  | "c" | "other" => some (.union unassigned (categories ["cc", "cf", "co"]))
  | "l" | "letter" => some (categories ["lu", "ll", "lt", "lm", "lo"])
  | "lc" | "casedletter" => some (categories ["lu", "ll", "lt"])
  | "m" | "mark" | "combiningmark" => some (categories ["mn", "mc", "me"])
  | "n" | "number" => some (categories ["nd", "nl", "no"])
  | "p" | "punctuation" | "punct" =>
      some (categories ["pc", "pd", "ps", "pe", "pi", "pf", "po"])
  | "s" | "symbol" => some (categories ["sm", "sc", "sk", "so"])
  | "z" | "separator" => some (categories ["zs", "zl", "zp"])
  | _ => classIn? categoryTexts name

/-- A yes-or-no property. -/
def property? (name : String) : Option CharClass :=
  classIn? propertyTexts name

/-- The characters that were assigned in a version of the standard, or before it. -/
def age? (name : String) : Option CharClass := do
  let last ← ageTexts.findIdx? fun (names, _) => names.contains name
  return .unionAll ((ageTexts.take (last + 1)).map fun (_, text) => readRuns text)

/-- A script. -/
def script? (name : String) : Option CharClass :=
  classIn? scriptTexts name

/-- The characters used with a script, its own and those of other scripts. -/
def scriptExtensions? (name : String) : Option CharClass := do
  let (names, text) ← scriptTexts.find? fun (names, _) => names.contains name
  let own := readRuns text
  let sharedWith (table : List (String × String)) :=
    CharClass.unionAll <| table.filterMap fun (script, text) =>
      if names.contains script then some (readRuns text) else none
  return .diff (.union own (sharedWith scriptExtensionTexts))
    (sharedWith scriptReductionTexts)

/-- A name without what comparisons ignore. -/
def looseName (name : List Char) : String :=
  let isPrefixed :=
    match name with
    | i :: s :: _ => (i == 'i' || i == 'I') && (s == 's' || s == 'S')
    | _ => false
  let kept := (if isPrefixed then name.drop 2 else name).filterMap fun character =>
    if character = ' ' ∨ character = '_' ∨ character = '-' ∨ 0x7F < character.toNat then
      none
    else
      some (Text.asciiLower character)
  let stripped := String.ofList kept
  if isPrefixed && stripped == "c" then "isc" else stripped

/-- Names that mean a category although they also abbreviate a property. -/
def meansCategory (name : String) : Bool :=
  ["cf", "sc", "lc"].contains name

/-- The class named by a property, category or script on its own. -/
def namedClass? (name : List Char) : Option CharClass :=
  let name := looseName name
  let property := if meansCategory name then none else property? name
  property <|> category? name <|> script? name

/-- The class named by a property and its value. -/
def valuedClass? (property value : List Char) : Option CharClass :=
  let value := looseName value
  match looseName property with
  | "generalcategory" | "gc" => category? value
  | "script" | "sc" => script? value
  | "scriptextensions" | "scx" => scriptExtensions? value
  | "age" => age? value
  | "graphemeclusterbreak" | "gcb" => classIn? graphemeBreakTexts value
  | "wordbreak" | "wb" => classIn? wordBreakTexts value
  | "sentencebreak" | "sb" => classIn? sentenceBreakTexts value
  | _ => none

/-- Decimal digits of all scripts. -/
def digitClass : CharClass :=
  categories ["nd"]

/-- Blank characters. -/
def blankClass : CharClass :=
  .runs Text.blankRuns

/-- Alphabetic characters. -/
def alphabeticClass : CharClass :=
  (property? "alphabetic").getD .none

/-- The characters that words are made of. -/
def wordClass : CharClass :=
  .unionAll [alphabeticClass, categories ["nd", "pc", "mn", "mc", "me"],
    .range 0x200C 0x200D]

end FieldSearch.Pattern
