import BuildAudit.Graph.Fault
import BuildAudit.Value.Text

/-!
# Faults

What the program reports as an error. A fault is told by its cause; its message is a sentence
followed by the details in parentheses.
-/

namespace BuildAudit

/-- Details of a fault, each a name and a text. -/
abbrev Details := List (String × CodeText)

/-- What ends a build. -/
inductive BuildFault where
  /-- An argument for the compiler is reserved. -/
  | reservedFlag (flag reason : String)
  /-- The compiler failed. -/
  | compile (reason : String) (exitCode? : Option Int) (arguments : List String)
  /-- The backend failed. -/
  | backend (command reason : String) (exitCode? : Option Int)
  /-- The pipeline has run already and is in the named stage. -/
  | finished (stage : String)

/-- What is wrong with build settings. -/
inductive SettingsFault where
  /-- There is no such setting. -/
  | unknownKey (key : String)
  /-- The name stands for the settings as a whole and cannot be set. -/
  | reservedKey (key : String)
  /-- The value of a setting must be a text. -/
  | notText (key : String) (value : Value)
  /-- A value of the named kind is no number of workers. -/
  | notNumber (kind : String)
  /-- A value of the named kind is no sequence of arguments. -/
  | notSequence (kind : String)
  /-- There must be at least one worker. -/
  | tooFewJobs
  /-- The compiler's command is blank. -/
  | blankCompiler
  /-- The output directory is blank. -/
  | blankOutput
  /-- There is no such verbosity. -/
  | unknownVerbosity (value : Value)
  /-- A value is not allowed, and cannot be written either. -/
  | unwritable

/-- What is wrong with a configuration. -/
inductive ConfigFault where
  /-- The value of a key does not have the required form. -/
  | invalid (key : String) (value : Value) (reason : String) (source? : Option String)
  /-- There is no such package in the workspace. -/
  | unknownPackage (package : String) (available : List String)

/-- Why the configuration cannot be loaded. -/
inductive LoadFault where
  /-- A configuration file does not exist. -/
  | noFile (path : String)
  /-- A configuration file cannot be read. -/
  | badFile (path reason : String)
  /-- An environment variable has a value that is not understood. -/
  | badVariable (name reason : String)
  /-- The settings that the sources give together are not allowed. -/
  | badSettings (fault : SettingsFault)

/-- What the program reports as an error. -/
inductive Fault where
  /-- A build ended early. -/
  | build (fault : BuildFault)
  /-- The configuration is wrong. -/
  | config (fault : ConfigFault)
  /-- The configuration cannot be loaded. -/
  | load (fault : LoadFault)
  /-- An import graph cannot be had. -/
  | graph (fault : GraphFault)

/-- The detail about an exit code, if there is one. -/
def exitDetail : Option Int → Details
  | none => []
  | some code => [("exit_code", .ofString (toString code))]

namespace BuildFault

/-- The sentence about a fault. -/
def summary : BuildFault → String
  | .reservedFlag flag reason => s!"Can't pass `{flag}` to the compiler: {reason}"
  | .compile .. => "Failed to build"
  | .backend command .. => s!"Failed to build with backend {command}"
  | .finished _ => "Build pipeline has already finished and cannot be reused"

/-- The details of a fault. -/
def details : BuildFault → Details
  | .reservedFlag flag _ => [("flag", flag)]
  | .compile reason exitCode? _ => ("reason", reason) :: exitDetail exitCode?
  | .backend command reason exitCode? =>
    ("command", command) :: ("reason", reason) :: exitDetail exitCode?
  | .finished stage => [("state", stage)]

end BuildFault

namespace SettingsFault

/-- Whether a value has the wrong kind, in contrast to a value that is not allowed. -/
def isKindFault : SettingsFault → Bool
  | .unknownKey _ | .reservedKey _ | .notText .. | .notNumber _ | .notSequence _ => true
  | .tooFewJobs | .blankCompiler | .blankOutput | .unknownVerbosity _ | .unwritable => false

/-- The message of a fault. -/
def message : SettingsFault → String
  | .unknownKey key => s!"BuildSettings.__init__() got an unexpected keyword argument '{key}'"
  | .reservedKey key => s!"BuildSettings.__init__() got multiple values for argument '{key}'"
  | .notText key value => s!"{key} must be a string, got {value.quoted}"
  | .notNumber kind => s!"'<' not supported between instances of '{kind}' and 'int'"
  | .notSequence kind => s!"'{kind}' object is not iterable"
  | .tooFewJobs => "jobs must be at least 1"
  | .blankCompiler => "compiler must not be empty"
  | .blankOutput => "output must not be empty"
  | .unknownVerbosity value => s!"verbosity must be quiet, normal or verbose, got {value.quoted}"
  | .unwritable => Text.tooLongMessage none

end SettingsFault

namespace ConfigFault

/-- The sentence about a fault. -/
def summary : ConfigFault → String
  | .invalid key value .. => s!"Invalid configuration for {key}: {value.text}"
  | .unknownPackage package _ => s!"Package '{package}' is not part of the workspace"

/-- The names of packages in one text, which says so if there is nothing to show. -/
def availableText (available : List String) : String :=
  let text := ", ".intercalate available
  if text.isEmpty then "<none>" else text

/-- The details of a fault. -/
def details : ConfigFault → Details
  | .invalid key value reason source? =>
    ("key", key) :: ("value", value.text) :: ("reason", reason) ::
      (source?.map fun source => ("source", CodeText.ofString source)).toList
  | .unknownPackage package available =>
    [("package", package), ("available", availableText available)]

end ConfigFault

/-- The sentence about a fault. -/
def LoadFault.summary : LoadFault → String
  | .noFile path => s!"Config file not found: {path}"
  | .badFile path reason => s!"Invalid config file '{path}': {reason}"
  | .badVariable name reason => s!"Invalid {name}: {reason}"
  | .badSettings fault => s!"Invalid configuration: {fault.message}"

/-- The details of a missing graph. -/
def GraphFault.details (fault : GraphFault) : Details :=
  ("reason", fault.cause.reason) ::
    (fault.package?.map fun package => ("package", CodeText.ofString package)).toList

/-- A sentence with details in parentheses, if there are any. -/
def withDetails (summary : String) (details : Details) : CodeText :=
  if details.isEmpty then summary
  else
    let texts : List CodeText := details.map fun detail => detail.1 ++ "=" ++ detail.2
    summary ++ " (" ++ CodeText.listing texts ++ ")"

namespace Fault

/-- The sentence about a fault. -/
def summary : Fault → String
  | .build fault => fault.summary
  | .config fault => fault.summary
  | .load fault => fault.summary
  | .graph _ => "Could not decode the module import graph"

/-- The details of a fault. -/
def details : Fault → Details
  | .build fault => fault.details
  | .config fault => fault.details
  | .load _ => []
  | .graph fault => fault.details

/-- The message of a fault. -/
def message (fault : Fault) : CodeText :=
  withDetails fault.summary fault.details

end Fault

end BuildAudit
