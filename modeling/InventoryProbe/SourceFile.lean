/-!
# Files

Files as they were found when a run began.
-/

namespace InventoryProbe

/-- A file as it was found: its text, or why it could not be read. -/
structure SourceFile where
  path : String
  content : Except String String

end InventoryProbe
