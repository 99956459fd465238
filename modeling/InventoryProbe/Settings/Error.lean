/-!
# Faults of settings

Why settings are refused. All of them are found before an inventory is looked at.
-/

namespace InventoryProbe

/-- Why settings are refused. -/
inductive SettingError where
  /-- Two options exclude one another. -/
  | conflict (first second : String)
  /-- An option was given without the one that it needs beside it. -/
  | missingPartner (option partner : String)
  | missingRequired (option : String)
  | invalidValue (option value reason : String)
  /-- Settings could not be loaded from a file; the reason is absent where it has no fixed words. -/
  | unreadable (path : String) (reason : Option String)
  deriving DecidableEq, Repr

namespace SettingError

/-- The words for a fault. -/
def message : SettingError → String
  | .conflict first second =>
    "conflicting options: '" ++ first ++ "' cannot be combined with '" ++ second ++ "'"
  | .missingPartner option partner =>
    "option '" ++ option ++ "' requires '" ++ partner ++ "' to be set as well"
  | .missingRequired option => "missing required option: " ++ option
  | .invalidValue option value reason =>
    "invalid value '" ++ value ++ "' for option '" ++ option ++ "': " ++ reason
  | .unreadable path reason =>
    "failed to load configuration from '" ++ path ++ "': " ++ reason.getD "malformed document"

end SettingError

end InventoryProbe
