import FieldSearch.Path
import FieldSearch.Strategy.Basic

namespace FieldSearch

/-!
# Configurations

A configuration says how searches treat letter case, and it may force a
strategy. Letter case is decided by the entry for the field's path, by the
attribute's own setting, or by the default, in this order. Entries are kept in
the order of their paths and are found without regard to letter case.
-/

/-- The treatment of letter case. -/
structure CaseSettings where
  /-- Letter case counts where nothing else is said. -/
  caseSensitive : Bool := true
  /-- Entries by dotted path; an entry may leave the question open. -/
  fields : List (String × Option Bool) := []
  deriving Repr, DecidableEq

namespace CaseSettings

/-- Put an entry at its place, or replace the entry with the same path. -/
def insertEntry
    (path : String)
    (setting : Option Bool) :
    List (String × Option Bool) →
    List (String × Option Bool)
  | [] => [(path, setting)]
  | (name, kept) :: rest =>
      if path = name then
        (path, setting) :: rest
      else if path < name then
        (path, setting) :: (name, kept) :: rest
      else
        (name, kept) :: insertEntry path setting rest

/-- Set the entry for a path. -/
def withField
    (settings : CaseSettings)
    (path : String)
    (setting : Option Bool) :
    CaseSettings :=
  { settings with fields := insertEntry path setting settings.fields }

/-- Set entries in order, so that of equal paths the last one counts. -/
def withFields
    (settings : CaseSettings)
    (entries : List (String × Option Bool)) :
    CaseSettings :=
  entries.foldl (fun settings (path, setting) => settings.withField path setting) settings

/-- The setting of the first entry for a path. -/
def settingFor? (settings : CaseSettings) (path : String) : Option Bool :=
  (settings.fields.find? fun (name, _) => namesMatch name path).bind (·.2)

/-- Whether letter case counts for a field, given its attribute's own setting. -/
def caseSensitiveFor
    (settings : CaseSettings)
    (path : String)
    (declared : Option Bool) :
    Bool :=
  ((settings.settingFor? path).or declared).getD settings.caseSensitive

end CaseSettings

/-- The configuration of a search. -/
structure Config where
  settings : CaseSettings := {}
  /-- A strategy to use for every field. -/
  strategy : Option Strategy := none

namespace Config

/-- Letter case does not count where nothing else is said. -/
def caseInsensitive (config : Config) : Config :=
  { config with settings := { config.settings with caseSensitive := false } }

/-- Set the entry for a path. -/
def withField (config : Config) (path : String) (setting : Option Bool) : Config :=
  { config with settings := config.settings.withField path setting }

/-- Use a strategy for every field. -/
def withStrategy (config : Config) (strategy : Strategy) : Config :=
  { config with strategy := some strategy }

/-- A configuration with loaded settings and without a strategy of its own. -/
def ofLoaded (settings : Option CaseSettings) : Except SearchError Config :=
  match settings with
  | some settings => .ok { settings := settings }
  | none => .error .invalidConfig

end Config

end FieldSearch
