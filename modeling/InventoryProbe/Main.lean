import InventoryProbe.CommandLine.Answer

/-!
# The program

Reads the files that the command line names, prints the answer, and ends with its exit status.
-/

open InventoryProbe InventoryProbe.CommandLine

/-- The words for a file that is not there. -/
def missingFile : String := "No such file or directory (os error 2)"

/-- The words for a file that cannot be read. -/
def readFailure : IO.Error → String
  | .noFileOrDirectory .. => missingFile
  | .permissionDenied .. => "Permission denied (os error 13)"
  -- A directory can be opened, and fails without a name when it is read.
  | .inappropriateType none .. => "Is a directory (os error 21)"
  | .inappropriateType (some _) .. => "Not a directory (os error 20)"
  | .invalidArgument .. => "File name too long (os error 36)"
  | .userError _ => "stream did not contain valid UTF-8"
  | e => toString e

/-- A file as it is found. -/
def readSource (path : String) : IO SourceFile := do
  try
    return ⟨path, .ok (← IO.FS.readFile path)⟩
  catch e =>
    return ⟨path, .error (readFailure e)⟩

/-- The files that arguments name. -/
def namedFiles (a : Arguments) : List String := a.config.toList ++ a.inventory.toList

/-- Answers the command line. -/
def main (args : List String) : IO UInt32 := do
  let config ← IO.getEnv "VMPROBE_CONFIG"
  let files ← match Arguments.parse args config with
    | .ok a => (namedFiles a).mapM readSource
    | .error _ => pure []
  let find (path : String) : SourceFile :=
    (files.find? (·.path == path)).getD ⟨path, .error missingFile⟩
  let reply := answer args config find
  IO.print reply.output
  return reply.exitCode.toUInt32
