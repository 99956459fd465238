/-!
# Diagnostics

The form in which a run tells what it is doing: a message, and behind it the values that belong to
it.
-/

namespace InventoryProbe

/-- A message with its context in brackets, if it has any. -/
def diagnostic (message : String) (context : List (String × String)) : String :=
  if context.isEmpty then message
  else
    message ++ " [" ++ String.intercalate " " (context.map fun (key, value) => key ++ "=" ++ value)
      ++ "]"

end InventoryProbe
