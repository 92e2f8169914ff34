import BuildAudit.Build.Run
import BuildAudit.Command.Options
import BuildAudit.Console.Markup
import BuildAudit.Console.Printed
import BuildAudit.Json.Writer
import BuildAudit.Log.Setup
import BuildAudit.Settings.Load
import BuildAudit.Tools.Compiler
import BuildAudit.Workspace.Load

/-!
# Running the command

A build loads its settings and its workspace, builds, and prints what the audit found. It ends with
the code 0 if everything went well and nothing was found, with 1 if not, and with 2 if the command
line is not understood. What is found goes to the output; everything else goes to the error output.
A failure that is not a fault, and a message that cannot be printed, interrupt the command.
-/

namespace BuildAudit.Command

open Console

/-- What a command prints and how it ends. -/
structure Ending where
  /-- The exit code. -/
  code : Nat
  /-- The text on the output. -/
  output : String := ""
  /-- The text on the error output. -/
  errors : String := ""
deriving DecidableEq, Repr

/-- What interrupts a command. -/
inductive Interruption where
  /-- A failure that is not reported to the user. -/
  | failure (failure : Failure)
  /-- A marked-up text that cannot be printed. -/
  | markup (fault : MarkupFault)

/-- The message of what interrupts a command, if it has one. -/
def Interruption.message? : Interruption → Option CodeText
  | .failure cause => cause.message?
  | .markup cause => cause.message?.map .ofString

/-- Where a command runs. -/
structure Host where
  /-- The home directory. -/
  home : PosixPath
  /-- The environment variables. -/
  environment : Table String
  /-- The processes that can be started. -/
  processes : Processes

/-- The overrides that the options stand for. -/
def overridesOf (arguments : BuildArguments) : Table Value :=
  [("verbose", .bool arguments.verbose), ("quiet", .bool arguments.quiet)] ++
    (if arguments.auditAll then [("pedantic_packages", .bool true)] else []) ++
    (arguments.jobs?.map fun jobs => ("jobs", .int jobs)).toList

/-- The settings with the further arguments of the options. -/
def extend (settings : Settings) (arguments : BuildArguments) : Settings :=
  { settings with
    compilerArguments := settings.compilerArguments ++ arguments.compilerArguments.map .string
    backend? := settings.backend?.map fun backend =>
      { backend with arguments := backend.arguments ++ arguments.backendArguments } }

/-- The warning about arguments for a backend that there is not. -/
def backendWarning (settings : Settings) (arguments : BuildArguments) : String :=
  if !arguments.backendArguments.isEmpty && settings.backend?.isNone then
    "--backend-args ignored: no backend is configured\n"
  else ""

/-- The line that a marked-up text is printed as. -/
def markedLine (text : String) : Except Interruption String :=
  ((markedUp text).mapError .markup).map fun shown => printed shown ++ "\n"

/-- A diagnostic as it is printed for people. -/
def diagnosticText (diagnostic : Diagnostic) : String :=
  "✘ " ++ printed (String.ofList (withEmoji diagnostic.message.shown.toList)) ++ "\n\n"

/-- The diagnostics as they are printed for machines. -/
def diagnosticsJson (diagnostics : List Diagnostic) : String :=
  Json.write .indented (.list (diagnostics.map Diagnostic.toValue)) ++ "\n"

/-- The line that sums up what was found. -/
def summaryLine (diagnostics : List Diagnostic) : String :=
  let packages := OrderedSet.ofList (diagnostics.map Diagnostic.package)
  s!"Found {diagnostics.length} dependency problem(s) in {packages.length} package(s).\n"

/-- How a command ends when the audit found something. -/
def findingsEnding (json : Bool) (diagnostics : List Diagnostic) : Ending where
  code := 1
  output :=
    if json then diagnosticsJson diagnostics else String.join (diagnostics.map diagnosticText)
  errors := summaryLine diagnostics

/-- The marked-up text that says that nothing was found. -/
def cleanText (audited : List String) : String :=
  let names := ", ".intercalate audited
  s!"✓ Dependencies of {names} look right."

/-- How a command ends when nothing was found. -/
def cleanEnding (json : Bool) (audited : List String) : Except Interruption Ending :=
  if json then .ok { code := 0, output := diagnosticsJson [] }
  else if audited.isEmpty then .ok { code := 0 }
  else (markedLine (cleanText audited)).map fun line => { code := 0, output := line }

/-- How a command ends after a build. -/
def reportEnding (json : Bool) (report : BuildReport) : Except Interruption Ending :=
  if report.result.succeeded then
    if report.diagnostics.isEmpty then cleanEnding json report.audited
    else .ok (findingsEnding json report.diagnostics)
  else .ok { code := 1 }

/-- How a command ends after a failure; only a fault has a message for the user. -/
def failureEnding : Failure → Except Interruption Ending
  | .fault fault =>
    (markedLine s!"Error: {fault.message.shown}").map fun line => { code := 1, errors := line }
  | failure => .error (.failure failure)

/-- The exit code; a command that is interrupted ends with 1. -/
def codeOf : Except Interruption Ending → Nat
  | .ok ending => ending.code
  | .error _ => 1

/-- The text on the output; a command that is interrupted has printed nothing. -/
def outputOf : Except Interruption Ending → String
  | .ok ending => ending.output
  | .error _ => ""

/-- How a command went. -/
structure Completion where
  /-- How it ended, or what interrupted it. -/
  ending : Except Interruption Ending
  /-- The session afterwards. -/
  session : Session
  /-- The processes that it started, in order. -/
  started : List ProcessCall := []

/-- The settings that are loaded with the options. -/
def settingsFor (host : Host) (files : FileTree) (arguments : BuildArguments) :
    Except Failure Settings :=
  let surroundings : Surroundings := { files, home := host.home, environment := host.environment }
  loadSettings surroundings (arguments.config?.map PosixPath.ofText) (overridesOf arguments)

/-- The path at which the workspace is looked for. -/
def workspacePath (files : FileTree) (arguments : BuildArguments) : PosixPath :=
  (arguments.config?.map PosixPath.ofText).getD files.workingPath

/-- What the options ask of a build. -/
def optionsOf (arguments : BuildArguments) : BuildOptions where
  selected? := arguments.package?
  dependenciesOnly := arguments.dependenciesOnly

/-- How the tools of a build are run. -/
def toolchainOf (workspace : Workspace) (settings : Settings) : Toolchain where
  compiler := settings.compiler
  ownership := workspace.ownership
  directory? := some workspace.root

/-- Builds a workspace. -/
def build (host : Host) (arguments : BuildArguments) (settings : Settings)
    (workspace : Workspace) (session : Session) : Completion :=
  let toolchain := toolchainOf workspace settings
  let (outcome, later) :=
    runBuild workspace settings (toolchain.tools host.processes) (optionsOf arguments) session
  { ending :=
      match outcome with
      | .error failure => failureEnding failure
      | .ok report => reportEnding arguments.json report
    session := later
    started := (later.calls.drop session.calls.length).map toolchain.process }

/-- Whether a text names a configuration file that exists. -/
def namesFile (files : FileTree) (text : String) : Bool :=
  match files.find (.ofText text) with
  | .ok (.file _) => true
  | _ => false

/-- Whether the options name only configuration files that exist. -/
def configExists (files : FileTree) (arguments : BuildArguments) : Bool :=
  arguments.config?.all (namesFile files)

/-- Runs the command with settings that are loaded. -/
def runWith (host : Host) (arguments : BuildArguments) (settings : Settings)
    (session : Session) : Completion :=
  let completion : Completion :=
    match Workspace.load session.files (workspacePath session.files arguments) with
    | .error failure => { ending := failureEnding failure, session }
    | .ok workspace => build host arguments (extend settings arguments) workspace session
  { completion with
    ending := completion.ending.map fun ending =>
      { ending with errors := backendWarning settings arguments ++ ending.errors } }

/-- Runs the command. -/
def runCommand (host : Host) (arguments : BuildArguments) (session : Session) :
    Completion :=
  match settingsFor host session.files arguments with
  | .error failure => { ending := failureEnding failure, session }
  | .ok settings => runWith host arguments settings session

/-- The text that tells how to use the program. -/
def usage : String :=
  "Usage: pedant [--version] build [OPTIONS]\n"

/-- Runs the program. -/
def run (host : Host) (arguments : List String) (session : Session) : Completion :=
  match readCommandLine arguments with
  | .version => { ending := .ok { code := 0, output := s!"pedant {version}\n" }, session }
  | .help => { ending := .ok { code := 0, output := usage }, session }
  | .misuse => { ending := .ok { code := 2, errors := usage }, session }
  | .build arguments =>
    if configExists session.files arguments then runCommand host arguments session
    else { ending := .ok { code := 2, errors := usage }, session }

/-- The records that the options of a command line let through. -/
def visibleRecords (arguments : List String) (records : List LogRecord) : List LogRecord :=
  match readCommandLine arguments with
  | .build arguments => passing (logThreshold arguments.verbose arguments.quiet) records
  | _ => records

end BuildAudit.Command
