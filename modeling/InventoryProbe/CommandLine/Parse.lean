import InventoryProbe.CommandLine.Arguments

/-!
# Reading command lines

A command line is read argument by argument. The value of an option is not looked at before the
next argument has been recognised: of two faults, an argument that is not understood is told before
the value of the option in front of it.
-/

namespace InventoryProbe.CommandLine

/-- What has been read of a command line. -/
structure Progress where
  arguments : Arguments
  /-- The options given so far that are given once only. -/
  given : List Switch
  /-- The option whose value has not been looked at, and the value, once it has been found. -/
  pending : Option (ValueOption × Option String)
  /-- Whether no more options are expected. -/
  noOptions : Bool

namespace Progress

/-- Nothing read. -/
def start : Progress := ⟨.nothing, [], none, false⟩

/-- Progress by an option that is given once only, which must not have been given before. -/
def give (p : Progress) (switch : Switch) : Except UsageError Progress :=
  if switch ∈ p.given then .error .repeated else .ok { p with given := switch :: p.given }

/-- Progress by an option with its value. -/
def takeValue (p : Progress) (option : ValueOption) (value : String) :
    Except UsageError Progress := do
  -- That an option is repeated is told before its value is looked at.
  let p ← if option.isList then .ok p else p.give (.value option)
  return { p with arguments := ← p.arguments.setValue option value }

/-- Progress by the option whose value has not been looked at. -/
def settle (p : Progress) : Except UsageError Progress :=
  match p.pending with
  | none => .ok p
  | some (_, none) => .error .invalidValue
  | some (option, some value) => takeValue { p with pending := none } option value

/-- Progress by a flag. -/
def takeFlag (p : Progress) (flag : Flag) : Except UsageError Progress := do
  let p ← p.settle
  let arguments ← p.arguments.setFlag flag
  let p ← p.give (.flag flag)
  return { p with arguments }

/-- Progress by an option, with the value that is attached to it, if any. -/
def takeOption (p : Progress) (option : ValueOption) (attached : Option String) :
    Except UsageError Progress := do
  let p ← p.settle
  match attached with
  | some value => p.takeValue option value
  | none => return { p with pending := some (option, none) }

/-- Progress by a long name, with the value behind its equals sign, if any. -/
def takeLong (p : Progress) (name : String) (attached : Option String) :
    Except UsageError Progress :=
  match Switch.ofLong? name, attached with
  | none, _ => .error .unknownArgument
  | some (.flag flag), none => p.takeFlag flag
  | some (.flag _), some _ => .error .excessValue
  | some (.value option), attached => p.takeOption option attached

/-- Progress by letters: flags, of which the last may be an option with its value attached. -/
def takeLetters (p : Progress) : List Char → Except UsageError Progress
  | [] => .ok p
  | letter :: rest =>
    match Switch.ofLetter? letter with
    | none => .error .unknownArgument
    | some (.flag flag) => do (← p.takeFlag flag).takeLetters rest
    | some (.value option) =>
      p.takeOption option <| match rest with
        | [] => none
        | '=' :: value => some (String.ofList value)
        | value => some (String.ofList value)

/-- Progress by an argument that is no option: a value that is waited for, or the check. -/
def takePlain (p : Progress) (arg : String) : Except UsageError Progress :=
  match p.pending, p.noOptions with
  | some (option, none), false => .ok { p with pending := some (option, some arg) }
  | _, _ =>
    if p.arguments.check.isSome then .error .unknownArgument
    else do
      let p ← p.settle
      return { p with arguments.check := some arg }

/-- The name and the attached value of an argument with a long name. -/
def splitLong (cs : List Char) : String × Option String :=
  match cs.span (· != '=') with
  | (name, '=' :: value) => (String.ofList name, some (String.ofList value))
  | (name, _) => (String.ofList name, none)

/-- Progress by an argument. -/
def take (p : Progress) (arg : String) : Except UsageError Progress :=
  if p.noOptions then p.takePlain arg
  else match arg.toList with
    | ['-', '-'] => .ok { p with noOptions := true }
    | '-' :: '-' :: cs => p.takeLong (splitLong cs).1 (splitLong cs).2
    | '-' :: c :: cs => p.takeLetters (c :: cs)
    | _ => p.takePlain arg

end Progress

namespace Arguments

/-- The arguments with the settings file that the environment names, if the command line names
none. -/
def withEnvironment (a : Arguments) (config : Option String) : Except UsageError Arguments :=
  match a.config, config with
  | none, some s => return { a with config := some (← path s) }
  | _, _ => .ok a

/-- Refuses arguments that neither ask for the list of checks nor name a check and an inventory. -/
def validate (a : Arguments) : Except UsageError Unit :=
  if a.list || (a.check.isSome && a.inventory.isSome) then .ok () else .error .missingRequired

/-- The arguments of a command line, and of the settings file that the environment names. -/
def parse (args : List String) (config : Option String) : Except UsageError Arguments := do
  let p ← args.foldlM Progress.take .start
  let p ← p.settle
  let a ← p.arguments.withEnvironment config
  a.validate
  return a

end Arguments

end InventoryProbe.CommandLine
