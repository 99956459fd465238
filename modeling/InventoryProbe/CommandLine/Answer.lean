import InventoryProbe.CommandLine.Parse
import InventoryProbe.Report.Format
import InventoryProbe.Run.Basic

/-!
# Answers

What the program prints for a command line, and the exit status by which a supervisor reads the
state: 0 to 3 from `ok` to `unknown`, and 2 as well for a command line that is not followed.
-/

namespace InventoryProbe.CommandLine

/-- What the program prints, and its exit status. -/
structure Answer where
  exitCode : Nat
  output : String
  deriving DecidableEq, Repr

/-- The name and the version of the program. -/
def versionText : String := "vmprobe 0.1.0\n"

/-- The options in short. -/
def helpText : String :=
  "Usage: vmprobe [OPTIONS] [CHECK]\n\nOptions:\n"
    ++ String.join (Switch.long.map fun (name, switch) =>
      "  --" ++ name ++ (match switch with
        | .flag _ => ""
        | .value _ => " <VALUE>") ++ "\n")

/-- A name with blanks behind it up to a column. -/
def column (width : Nat) (name : String) : String :=
  name ++ String.ofList (List.replicate (width - name.length) ' ')

/-- The list of the checks, one a line. -/
def listing (catalogue : Catalogue) : String :=
  String.join (catalogue.descriptions.map fun (name, description) =>
    column 26 name ++ description ++ "\n")

/-- A report in a format. -/
def OutputFormat.write (format : OutputFormat) (report : Report) : String :=
  match format with
  | .text => report.text ++ "\n"
  | .json => report.json ++ "\n"

/-- The report on a check and an inventory file; settings that cannot be loaded make the run
fail. -/
def Arguments.report (a : Arguments) (catalogue : Catalogue) (find : String → SourceFile)
    (check inventory : String) : Report :=
  match a.settings find with
  | .ok s => catalogue.run check s (find inventory)
  | .error e => .ofFailure check (RunError.setting e).userMessage

/-- The answer that a report is. -/
def Arguments.tell (a : Arguments) (report : Report) : Answer :=
  ⟨report.exitCode, a.output.write report⟩

/-- The answer to arguments, given the files as they are found. -/
def Arguments.answer (a : Arguments) (find : String → SourceFile) : Answer :=
  match Catalogue.create with
  | .error e =>
    a.tell (.ofFailure (a.check.getD "vmprobe") (RunError.catalogue e).userMessage)
  | .ok catalogue =>
    if a.list then ⟨0, listing catalogue⟩
    else match a.check, a.inventory with
      | some check, some inventory => a.tell (a.report catalogue find check inventory)
      | _, _ => ⟨3, ""⟩

/-- The answer to a command line, given the settings file that the environment names and the files
as they are found. -/
def answer (args : List String) (config : Option String) (find : String → SourceFile) : Answer :=
  match Arguments.parse args config with
  | .ok a => a.answer find
  | .error .helpWanted => ⟨0, helpText⟩
  | .error .versionWanted => ⟨0, versionText⟩
  | .error _ => ⟨2, ""⟩

end InventoryProbe.CommandLine
