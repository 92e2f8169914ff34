import BuildAudit.Build.Backend
import BuildAudit.Fault
import BuildAudit.Usage.Diagnostic

/-!
# Build settings

How a build runs. Settings are made from a table of values, with a default for each value that is
not given. The number of workers may be any value that compares with one, and the switch for the
audit and the arguments for the compiler are not looked into.
-/

namespace BuildAudit

/-- How much is told. -/
inductive Verbosity where
  /-- Only errors. -/
  | quiet
  /-- Progress as well. -/
  | normal
  /-- Everything. -/
  | verbose
deriving DecidableEq, Repr

/-- The name of a verbosity. -/
def Verbosity.name : Verbosity → String
  | .quiet => "quiet"
  | .normal => "normal"
  | .verbose => "verbose"

/-- The verbosity of a name. -/
def Verbosity.ofName? : String → Option Verbosity
  | "quiet" => some .quiet
  | "normal" => some .normal
  | "verbose" => some .verbose
  | _ => none

/-- How a build runs. -/
structure Settings where
  /-- Whether every package is audited; any value that is switched on counts. -/
  auditAll : Value := .bool false
  /-- The number of workers of the audit. -/
  jobs : Value := .int 1
  /-- The compiler's output directory. -/
  output? : Option String := none
  /-- The compiler's command. -/
  compiler : String := "purs"
  /-- Further arguments for the compiler. -/
  compilerArguments : List Value := []
  /-- The backend. -/
  backend? : Option Backend := none
  /-- The command that is suggested for adding dependencies. -/
  installCommand : String := defaultInstallCommand
  /-- How much is told. -/
  verbosity : Verbosity := .normal

namespace Settings

/-- The names of the settings. -/
def keys : List String := [
  "pedantic_packages", "jobs", "output", "compiler", "compiler_args", "backend",
  "install_command", "verbosity"]

/-- The fault of a key that cannot be set. -/
def keyFault? (key : String) : Option SettingsFault :=
  if keys.contains key then none
  else if key = "self" then some (.reservedKey key)
  else some (.unknownKey key)

/-- The fault of a value that the fault shows, if the value can be written. -/
def showing (fault : Value → SettingsFault) (value : Value) : SettingsFault :=
  if value.isUnwritable then .unwritable else fault value

/-- The text of a setting. -/
def textOf (fields : Table Value) (key default : String) : Except SettingsFault String :=
  match fields.get? key with
  | none => .ok default
  | some (.string text) => .ok text
  | some value => .error (showing (.notText key) value)

/-- The text of a setting that may be absent. -/
def textOf? (fields : Table Value) (key : String) : Except SettingsFault (Option String) :=
  match fields.get? key with
  | none | some .null => .ok none
  | some (.string text) => .ok (some text)
  | some value => .error (showing (.notText key) value)

/-- Whether a value is a number below one; a truth value counts as zero or one. -/
def isBelowOne? : Value → Option Bool
  | .bool value => some !value
  | .int value => some (value < 1)
  | .float value => some (value < 1)
  | _ => none

/-- The items that a value lists: the items of a list, the keys of a table, the characters of a
text. -/
def sequence? : Value → Option (List Value)
  | .list items => some items
  | .table entries => some (entries.map fun entry => .string entry.1)
  | .string text => some (text.toList.map fun c => .string (String.singleton c))
  | _ => none

/-- Requires a number of workers that is at least one. -/
def checkJobs (jobs : Value) : Except SettingsFault Unit :=
  match isBelowOne? jobs with
  | none => .error (.notNumber jobs.kindName)
  | some true => .error .tooFewJobs
  | some false => .ok ()

/-- Requires a text that is not blank. -/
def checkVisible (fault : SettingsFault) (text : String) : Except SettingsFault Unit :=
  if Text.isBlankText text then .error fault else .ok ()

/-- The verbosity that a value names. -/
def verbosityOf (value : Value) : Except SettingsFault Verbosity :=
  match value.asString?.bind Verbosity.ofName? with
  | none => .error (showing .unknownVerbosity value)
  | some verbosity => .ok verbosity

/-- Requires that keys are the names of settings. -/
def checkKeys (names : List String) : Except SettingsFault Unit :=
  match names.findSome? keyFault? with
  | none => .ok ()
  | some fault => .error fault

/-- Requires that an output directory is not blank, if there is one. -/
def checkOutput : Option String → Except SettingsFault Unit
  | none => .ok ()
  | some output => checkVisible .blankOutput output

/-- The arguments for the compiler that a value lists. -/
def argumentsOf (value : Value) : Except SettingsFault (List Value) :=
  match sequence? value with
  | none => .error (.notSequence value.kindName)
  | some items => .ok items

/-- The settings of a table, with a backend that has been read from it. -/
def ofTable (fields : Table Value) (backend? : Option Backend) : Except SettingsFault Settings := do
  checkKeys fields.keys
  let compiler ← textOf fields "compiler" "purs"
  let installCommand ← textOf fields "install_command" defaultInstallCommand
  let output? ← textOf? fields "output"
  let jobs := (fields.get? "jobs").getD (.int 1)
  checkJobs jobs
  checkVisible .blankCompiler compiler
  checkOutput output?
  let verbosity ← verbosityOf ((fields.get? "verbosity").getD (.string "normal"))
  let compilerArguments ← argumentsOf ((fields.get? "compiler_args").getD (.list []))
  pure {
    auditAll := (fields.get? "pedantic_packages").getD (.bool false)
    jobs, output?, compiler, compilerArguments, backend?, installCommand, verbosity }

end Settings

end BuildAudit
