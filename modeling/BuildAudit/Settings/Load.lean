import BuildAudit.Session
import BuildAudit.Settings.Basic
import BuildAudit.Settings.Variable
import BuildAudit.Toml.Document

/-!
# Loading settings

Settings come from six sources, each overriding the ones before it: the defaults, the configuration
file in the home directory, the one in the working directory, one that is named, the environment,
and the command line. The backend is read from the source that wins.
-/

namespace BuildAudit

/-- The name of a configuration file in a directory. -/
def configFileName : String := "pedant.toml"

/-- The name of the configuration file in the home directory. -/
def homeFileName : String := ".pedant.toml"

/-- Where settings are looked for. -/
structure Surroundings where
  /-- The files. -/
  files : FileTree
  /-- The home directory. -/
  home : PosixPath
  /-- The environment variables. -/
  environment : Table String

/-- The working directory as a path. -/
def FileTree.workingPath (files : FileTree) : PosixPath where
  anchor := .root
  names := files.workingDirectory

/-- The number of a fault and its wording. -/
def FileFault.report : FileFault → Nat × String
  | .missing => (2, "No such file or directory")
  | .exists => (17, "File exists")
  | .notADirectory => (20, "Not a directory")
  | .isADirectory => (21, "Is a directory")
  | .tooLong => (36, "File name too long")

/-- The message about a file that cannot be read. -/
def FileFault.message (fault : FileFault) (path : PosixPath) : String :=
  let (number, wording) := fault.report
  s!"[Errno {number}] {wording}: {Text.quoted path.text}"

/-- Reads a configuration file. -/
def readConfig (files : FileTree) (path : PosixPath) : Except LoadFault (Table Value) := do
  let content ←
    (files.read path).mapError fun fault => .badFile path.text (fault.message path)
  (Toml.readOctets content).mapError fun fault => .badFile path.text fault.message

/-- The table of settings of a configuration file. -/
def buildTable (files : FileTree) (path : PosixPath) : Except Failure (Table Value) := do
  let document ← (readConfig files path).mapError .ofLoad
  match document.get? "build" with
  | none => pure []
  | some (.table settings) => pure settings
  | some value => throw (.invalid "build" value "expected a table" (some path.text))

/-- Whether anything stands at a path. -/
def isPresent (files : FileTree) (path : PosixPath) : Except Failure Bool :=
  (files.hasPath path).mapError .file

/-- The table of settings of a configuration file, which is empty if there is no such file. -/
def optionalBuildTable (files : FileTree) (path : PosixPath) : Except Failure (Table Value) := do
  if ← isPresent files path then buildTable files path else pure []

/-- The table of settings of a configuration file that must exist. -/
def requiredBuildTable (files : FileTree) (path : PosixPath) : Except Failure (Table Value) := do
  if ← isPresent files path then buildTable files path
  else throw (.ofLoad (.noFile path.text))

/-- The table of settings of the configuration file that is named, if one is. -/
def namedBuildTable (files : FileTree) : Option PosixPath → Except Failure (Table Value)
  | none => .ok []
  | some path => requiredBuildTable files path

/-- Reads the settings that the environment gives. -/
def readVariables (environment : Table String) : List Variable → Except LoadFault (Table Value)
  | [] => .ok []
  | setting :: rest =>
    match environment.get? setting.name with
    | none => readVariables environment rest
    | some text =>
      match setting.kind.read text with
      | .error fault => .error (.badVariable setting.name fault.message)
      | .ok none => readVariables environment rest
      | .ok (some value) => (readVariables environment rest).map ((setting.key, value) :: ·)

/-- Replaces a switch among settings by the verbosity that it stands for, if it is on. -/
def resolveSwitch (switch : String) (verbosity : Verbosity) (settings : Table Value) :
    Table Value :=
  match settings.get? switch with
  | none => settings
  | some value =>
    (if value.isOn then settings.insert "verbosity" (.string verbosity.name) else settings).erase
      switch

/-- Whether a value is given. -/
def isGiven : Value → Bool
  | .null => false
  | _ => true

/-- The settings that overrides stand for: switches are resolved and absent values left out. -/
def resolveOverrides (overrides : Table Value) : Table Value :=
  (resolveSwitch "quiet" .quiet (resolveSwitch "verbose" .verbose overrides)).filter
    (isGiven ·.2)

/-- Reads the backend from a value. -/
def backendOf : Value → Except Failure (Option Backend)
  | .null => .ok none
  | .table fields =>
    let command := (Table.get? fields "cmd").getD .null
    let arguments := (Table.get? fields "args").getD (.list [])
    match command with
    | .string text =>
      if h : Text.isBlankText text = false then
        match arguments.asStrings? with
        | none => .error (.invalid "backend.args" arguments "expected a list of strings" none)
        | some texts => .ok (some { command := text, arguments := texts, command_visible := h })
      else .error (.invalid "backend.cmd" command "expected a non-empty command" none)
    | _ => .error (.invalid "backend.cmd" command "expected a non-empty command" none)
  | value => .error (.invalid "backend" value "expected a table with `cmd` and `args`" none)

/-- The settings of all sources in one table. -/
def mergedSettings (surroundings : Surroundings) (config? : Option PosixPath)
    (overrides : Table Value) : Except Failure (Table Value) := do
  let files := surroundings.files
  let ofHome ← optionalBuildTable files (surroundings.home.join (.ofText homeFileName))
  let ofProject ← optionalBuildTable files (files.workingPath.join (.ofText configFileName))
  let named ← namedBuildTable files config?
  let ofEnvironment ← (readVariables surroundings.environment settingVariables).mapError .ofLoad
  pure <|
    ((((Table.overlay [] ofHome).overlay ofProject).overlay named).overlay ofEnvironment).overlay
      (resolveOverrides overrides)

/-- The backend of merged settings. One that the overrides give ready-made counts; otherwise the
backend is read from the source that wins. -/
def chosenBackend (made? : Option (Option Backend)) (merged : Table Value) :
    Except Failure (Option Backend) :=
  match made?, merged.get? "backend" with
  | some backend?, _ => .ok backend?
  | none, none => .ok none
  | none, some value => backendOf value

/-- Loads the settings of a build. The overrides may give the backend ready-made, or say so that
there is none. -/
def loadSettings (surroundings : Surroundings) (config? : Option PosixPath)
    (overrides : Table Value) (made? : Option (Option Backend) := none) :
    Except Failure Settings := do
  let merged ← mergedSettings surroundings config? overrides
  let backend? ← chosenBackend made? merged
  (Settings.ofTable merged backend?).mapError fun fault => .ofLoad (.badSettings fault)

end BuildAudit
