import FieldSearch.Config.Form
import FieldSearch.Json.Reading

namespace FieldSearch

/-!
# Settings in JSON

Settings in JSON are an object, or an array whose items are its entries in
order, from the first one on. Entries that settings do not have are passed over,
however deeply they are nested.
-/

namespace Json

/-- A truth value. -/
def truth? : Json → Option Bool
  | boolean truth => some truth
  | _ => none

/-- A truth value, or null. -/
def optionalTruth? : Json → Option (Option Bool)
  | null => some none
  | json => json.truth?.map some

/-- The members of an object. -/
def members? : Json → Option (List (String × Json))
  | object members => some members
  | _ => none

/-- The members of an object, or the items of an array as those of the first names. -/
def record? (names : List String) : Json → Option (List (String × Json))
  | object members => some members
  | array items => if items.length ≤ names.length then some (names.zip items) else none
  | _ => none

/-- JSON as a format of settings. -/
def form : Form Json where
  truth? := truth?
  optionalTruth? := optionalTruth?
  entries? := members?
  record? := record?

end Json

/-- Load a configuration from JSON. -/
def Config.ofJson (text : String) : Except SearchError Config :=
  ofLoaded (Json.ofString? text >>= Json.form.settings?)

end FieldSearch
