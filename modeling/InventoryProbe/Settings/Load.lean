import InventoryProbe.Document.Toml.Reader
import InventoryProbe.Settings.Basic
import InventoryProbe.SourceFile

/-!
# Settings files

Settings are kept in TOML files, whose tables are the sections of the settings.
-/

namespace InventoryProbe

namespace Settings

/-- The settings that a text holds. -/
def ofToml? (source : String) : Option Settings := do
  let document ← Toml.read source.toList
  (codec.read .settings document).toOption

/-- The settings in a file. -/
def load (file : SourceFile) : Except SettingError Settings :=
  match file.content with
  | .error reason => .error (.unreadable file.path (some reason))
  | .ok source =>
    match ofToml? source with
    | some settings => .ok settings
    | none => .error (.unreadable file.path none)

end Settings

end InventoryProbe
