import FieldSearch.Config.Form
import FieldSearch.Yaml.Node

namespace FieldSearch

/-!
# Settings in YAML

Settings in YAML are a mapping. Where a mapping is expected, nothing at all
stands for an empty one, but an explicit null does not. A repeated node is read
again at each place where it stands, which may happen only so often.
-/

namespace Yaml

/-- The tag of truth values. -/
def truthTag : String := "tag:yaml.org,2002:bool"

/-- The tag of null. -/
def nullTag : String := "tag:yaml.org,2002:null"

/-- The truth value that a text spells. -/
def truthOf? : String → Option Bool
  | "true" | "True" | "TRUE" => some true
  | "false" | "False" | "FALSE" => some false
  | _ => none

/-- The text spells null. -/
def isNullText (text : String) : Bool :=
  ["~", "null", "Null", "NULL"].contains text

namespace Node

/-- A truth value: plain with any tag, or a literal block with the tag of truth values. -/
def truth? : Node → Option Bool
  | scalar .plain _ text => truthOf? text
  | scalar .literal (some tag) text => if tag = truthTag then truthOf? text else none
  | _ => none

/-- A truth value, or null: a plain one without a tag, or one with the tag of null. -/
def optionalTruth? : Node → Option (Option Bool)
  | scalar .plain none text =>
      if text.isEmpty || isNullText text then some none else (truthOf? text).map some
  | scalar .plain (some tag) text =>
      if tag = nullTag then
        if isNullText text then some none else none
      else
        (truthOf? text).map some
  | node => node.truth?.map some

/-- The text of a scalar. -/
def text? : Node → Option String
  | scalar _ _ text => some text
  | _ => none

/-- The node is repeated from elsewhere. -/
def isRepeated : Node → Bool
  | repeated _ => true
  | _ => false

end Node

namespace Document

/-- The entries of a mapping whose keys are scalars. -/
def entries? (document : Document) (node : Node) : Option (List (String × Node)) := do
  match ← document.resolve? node with
  | .mapping entries =>
      entries.mapM fun (key, value) => do
        let key ← document.resolve? key
        return (← key.text?, value)
  | .scalar .plain _ text => if text.isEmpty then some [] else none
  | _ => none

/-- YAML as a format of settings. -/
def form (document : Document) : Form Node where
  truth? node := document.resolve? node >>= Node.truth?
  optionalTruth? node := document.resolve? node >>= Node.optionalTruth?
  entries? := document.entries?
  record? _ := document.entries?

/-- The number of repeated nodes among keys. -/
def repeatedKeys (document : Document) (node : Node) : Nat :=
  match document.resolve? node with
  | some (.mapping entries) => (entries.filter (·.1.isRepeated)).length
  | _ => 0

/-- The number of repetitions that are read at a node and, by a count, in its entries. -/
def repetitionsWith
    (document : Document)
    (count : String → Node → Nat)
    (node : Node) :
    Nat :=
  let entries := (document.entries? node).getD []
  (if node.isRepeated then 1 else 0) + document.repeatedKeys node +
    (entries.map fun (key, value) => count key value).foldl (· + ·) 0

/-- The number of repetitions that are read in a setting with a given key. -/
def settingRepetitions (key : String) (node : Node) : Nat :=
  if key = Form.caseKey ∧ node.isRepeated then 1 else 0

/-- The number of repetitions that are read in the settings. -/
def repetitions (document : Document) : Nat :=
  document.repetitionsWith (fun key node =>
      if key = Form.fieldsKey then
        document.repetitionsWith
          (fun _ field => document.repetitionsWith settingRepetitions field) node
      else
        settingRepetitions key node)
    document.root

/-- The settings that a document stands for. -/
def settings? (document : Document) : Option CaseSettings :=
  if document.repetitions ≤ 100 * document.root.size then
    document.form.settings? document.root
  else
    none

end Document

end Yaml

/-- Load a configuration from YAML. -/
def Config.ofYaml (text : String) : Except SearchError Config :=
  ofLoaded (Yaml.Document.ofString? text >>= Yaml.Document.settings?)

end FieldSearch
