/-!
# Options

The options of the command line: their long names, the letters that stand for some of them, and
whether a value follows.
-/

namespace InventoryProbe.CommandLine

/-- An option that is given or not. -/
inductive Flag where
  | list
  | verbose
  | includePoweredOff
  | includeAcknowledged
  | ignoreMissing
  | homogeneous
  | defaultIsMinimum
  | help
  | version
  deriving DecidableEq, Repr

/-- An option that a value follows. -/
inductive ValueOption where
  | inventory
  | config
  | output
  | timeout
  | warning
  | critical
  | includePool
  | excludePool
  | ignoreMachine
  | ignoreDatastore
  | includeType
  | excludeType
  | includeName
  | excludeName
  | includeStatus
  | excludeStatus
  | sharedAttribute
  | sharedSeparator
  | hostAttribute
  | hostSeparator
  | datastoreAttribute
  | datastoreSeparator
  | outdatedByWarning
  | outdatedByCritical
  | minimumRequired
  deriving DecidableEq, Repr

/-- Whether the option may be given again and again, each time with values divided by commas. -/
def ValueOption.isList : ValueOption → Bool
  | .includePool | .excludePool | .ignoreMachine | .ignoreDatastore | .includeType | .excludeType
  | .includeName | .excludeName | .includeStatus | .excludeStatus => true
  | _ => false

/-- An option of either sort. -/
inductive Switch where
  | flag (flag : Flag)
  | value (option : ValueOption)
  deriving DecidableEq, Repr

namespace Switch

/-- The options by their long names. -/
def long : List (String × Switch) :=
  [("inventory", .value .inventory),
   ("config", .value .config),
   ("list", .flag .list),
   ("output", .value .output),
   ("timeout", .value .timeout),
   ("verbose", .flag .verbose),
   ("warning", .value .warning),
   ("critical", .value .critical),
   ("include-rp", .value .includePool),
   ("exclude-rp", .value .excludePool),
   ("ignore-vm", .value .ignoreMachine),
   ("ignore-datastore", .value .ignoreDatastore),
   ("include-powered-off", .flag .includePoweredOff),
   ("include-type", .value .includeType),
   ("exclude-type", .value .excludeType),
   ("include-acknowledged", .flag .includeAcknowledged),
   ("include-name", .value .includeName),
   ("exclude-name", .value .excludeName),
   ("include-status", .value .includeStatus),
   ("exclude-status", .value .excludeStatus),
   ("custom-attribute", .value .sharedAttribute),
   ("separator", .value .sharedSeparator),
   ("host-attribute", .value .hostAttribute),
   ("host-separator", .value .hostSeparator),
   ("datastore-attribute", .value .datastoreAttribute),
   ("datastore-separator", .value .datastoreSeparator),
   ("ignore-missing-attributes", .flag .ignoreMissing),
   ("homogeneous", .flag .homogeneous),
   ("outdated-by-warning", .value .outdatedByWarning),
   ("outdated-by-critical", .value .outdatedByCritical),
   ("minimum-required", .value .minimumRequired),
   ("default-is-minimum", .flag .defaultIsMinimum),
   ("help", .flag .help),
   ("version", .flag .version)]

/-- The options by the letters that stand for them. -/
def short : List (Char × Switch) :=
  [('i', .value .inventory),
   ('c', .value .config),
   ('t', .value .timeout),
   ('v', .flag .verbose),
   ('w', .value .warning),
   ('C', .value .critical),
   ('h', .flag .help),
   ('V', .flag .version)]

/-- The option with a long name. -/
def ofLong? (name : String) : Option Switch := (long.find? (·.1 == name)).map (·.2)

/-- The option that a letter stands for. -/
def ofLetter? (letter : Char) : Option Switch := (short.find? (·.1 == letter)).map (·.2)

end Switch

end InventoryProbe.CommandLine
