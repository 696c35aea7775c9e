import FieldSearch.Config

namespace FieldSearch

/-!
# Loading settings

Settings are written as an object with the optional entries `case_sensitive`
and `fields`. Other entries are ignored, but neither of these may be given
twice. A format is described by what it offers to read from a value
(`Form`), and `Form.settings?` reads settings in any format.
-/

/-- What can be read from the values of a format. -/
structure Form (Value : Type) where
  /-- A truth value. -/
  truth? : Value → Option Bool
  /-- A truth value that may be left open. -/
  optionalTruth? : Value → Option (Option Bool)
  /-- The entries of a map. -/
  entries? : Value → Option (List (String × Value))
  /-- The entries of an object with known names, which may stand in for their order. -/
  record? : List String → Value → Option (List (String × Value))

namespace Form

/-- The value of an entry that occurs at most once; none at all if it is repeated. -/
def single?
    (key : String)
    (entries : List (String × Value)) :
    Option (Option Value) :=
  match entries.filter (·.1 == key) with
  | [] => some none
  | [(_, value)] => some (some value)
  | _ => none

/-- The name of the entry for letter case. -/
def caseKey : String := "case_sensitive"

/-- The name of the entry for fields. -/
def fieldsKey : String := "fields"

/-- The setting of a field. -/
def fieldSetting? (form : Form Value) (value : Value) : Option (Option Bool) := do
  let entries ← form.record? [caseKey] value
  match ← single? caseKey entries with
  | some setting => form.optionalTruth? setting
  | none => some none

/-- The settings of fields. -/
def fieldSettings? (form : Form Value) (value : Value) : Option (List (String × Option Bool)) := do
  let entries ← form.entries? value
  entries.mapM fun (path, entry) => (form.fieldSetting? entry).map (path, ·)

/-- The settings that a value stands for. -/
def settings? (form : Form Value) (value : Value) : Option CaseSettings := do
  let entries ← form.record? [caseKey, fieldsKey] value
  let caseSensitive ← (← single? caseKey entries).mapM form.truth?
  let fields ← (← single? fieldsKey entries).mapM form.fieldSettings?
  let settings : CaseSettings := { caseSensitive := caseSensitive.getD true }
  return settings.withFields (fields.getD [])

end Form

end FieldSearch
