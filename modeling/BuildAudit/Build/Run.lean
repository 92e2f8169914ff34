import BuildAudit.Audit.Run
import BuildAudit.Build.Info
import BuildAudit.Build.Pipeline
import BuildAudit.Workspace.Sources

/-!
# Running a build

A build writes the module with the build information, runs a pipeline, and after a success audits
the packages that are to be audited. Nothing is written and no tool is called for a package that is
not in the workspace; nothing is written for arguments that the pipeline is going to refuse.
-/

namespace BuildAudit

/-- What came of a build. -/
structure BuildReport where
  /-- How the pipeline ended. -/
  result : BuildResult
  /-- What the audit found. -/
  diagnostics : List Diagnostic := []
  /-- The names of the audited packages. -/
  audited : List String := []

/-- Whether the build came to its end and the audit found nothing. -/
def BuildReport.isOk (report : BuildReport) : Bool :=
  report.result.succeeded && report.diagnostics.isEmpty

/-- What is asked of a build. -/
structure BuildOptions where
  /-- The package that is selected. -/
  selected? : Option String := none
  /-- Whether only the dependencies of the selected package are built. -/
  dependenciesOnly : Bool := false
  /-- Whether the module with the build information is written. -/
  writeInfo : Bool := true

/-- The packages to audit with the scope of the audit, unless nothing is to be audited. -/
def auditPlan (workspace : Workspace) (all : Bool) (selected? : Option String) :
    Except ConfigFault (Option (Scope × List Package)) :=
  let candidates := workspace.audited all
  match selected? with
  | some name => do
    let package ← workspace.packageOf name
    pure (if candidates.contains package then some (.single package.name, [package]) else none)
  | none => .ok (if candidates.isEmpty then none else some (.all, candidates))

/-- Whether the arguments of the settings pass the check for reserved flags. -/
def flagsAccepted (settings : Settings) : Except Failure Bool :=
  match checkArguments settings.backend? settings.compilerArguments with
  | .ok _ => .ok true
  | .error (.fault (.build _)) => .ok false
  | .error failure => .error failure

/-- What an audit after a build needs to know. -/
def auditContext (workspace : Workspace) (settings : Settings) (tools : Tools)
    (packages : List Package) : AuditContext where
  packages := packages
  declaredOf name :=
    ((workspace.packageOf name).map (·.dependencies)).mapError fun fault => .fault (.config fault)
  graphOf globs := tools.runGraph globs (settings.compilerArguments.filterMap Value.asString?)
  globsFor package := .ok (workspace.auditGlobs package)
  installCommand := settings.installCommand

/-- A result that fails with a fault of the configuration. -/
def Action.ofConfig {α : Type} (result : Except ConfigFault α) : Action α :=
  Action.ofExcept (result.mapError .ofConfig)

/-- Selects the patterns to compile. Asking for dependencies only has no effect without a selected
package, and is noted. -/
def selectGlobs (workspace : Workspace) (selected? : Option String) (dependenciesOnly : Bool) :
    Action NameSet := do
  if dependenciesOnly && selected?.isNone then
    Action.log .debug "--deps-only without a selected package still builds workspace sources"
  Action.ofConfig (workspace.buildGlobs selected? dependenciesOnly)

/-- What the pipeline of a build is to do. -/
def buildRequest (settings : Settings) (globs : NameSet) : BuildRequest where
  globs := globs
  arguments := settings.compilerArguments
  output? := settings.output?
  backend? := settings.backend?

/-- Audits the packages that are to be audited after a build that came to its end. -/
def auditAfter (workspace : Workspace) (settings : Settings) (tools : Tools)
    (selected? : Option String) (result : BuildResult) : Action BuildReport := do
  match ← Action.ofConfig (auditPlan workspace settings.auditAll.isOn selected?) with
  | none => pure { result }
  | some (scope, packages) =>
    let context := auditContext workspace settings tools packages
    let diagnostics ← context.audit settings.jobs scope
    pure { result, diagnostics, audited := packages.map (·.name) }

/-- Makes a build ready for its pipeline: looks up the selected package, brings the module with the
build information up to date unless the arguments are going to be refused, and selects the patterns
to compile. -/
def prepare (workspace : Workspace) (settings : Settings) (options : BuildOptions) :
    Action NameSet := do
  match options.selected? with
  | some name => let _ ← Action.ofConfig (workspace.packageOf name)
  | none => pure ()
  if options.writeInfo then
    if ← Action.ofExcept (flagsAccepted settings) then
      let _ ← writeBuildInfo workspace.root workspace.packageNames
  selectGlobs workspace options.selected? options.dependenciesOnly

/-- Builds a workspace and audits it after a success. -/
def runBuild (workspace : Workspace) (settings : Settings) (tools : Tools)
    (options : BuildOptions) : Action BuildReport := do
  let globs ← prepare workspace settings options
  let result ← buildOnce tools (buildRequest settings globs)
  if result.succeeded then auditAfter workspace settings tools options.selected? result
  else pure { result }

end BuildAudit
