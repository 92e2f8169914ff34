import BuildAudit.Package.Basic
import BuildAudit.Session
import BuildAudit.Settings.Basic
import BuildAudit.Usage.Diagnostic

/-!
# Running an audit

An audit looks at one package or at all of them. Each package is audited against an import graph of
its own; a graph that cannot be had only leaves out its package. With several workers the packages
are audited side by side, and what is found is still listed in the order of the packages.
-/

namespace BuildAudit

/-- What an audit is about. -/
inductive Scope where
  /-- Every package. -/
  | all
  /-- The package of a name. -/
  | single (name : String)
  /-- A value that names nothing to audit. -/
  | unknown (value : Value)

/-- What an audit needs to know. -/
structure AuditContext where
  /-- The packages in order. -/
  packages : List Package
  /-- The declared dependencies of a package. -/
  declaredOf : String → Except Failure NameSet
  /-- The import graph of the sources that match patterns. -/
  graphOf : NameSet → Action ImportGraph
  /-- The patterns to graph for a package. -/
  globsFor : Package → Except Failure NameSet
  /-- The command that is suggested for adding dependencies. -/
  installCommand : String

namespace AuditContext

/-- Notes that the audit of a package is left out. -/
def skip (package : Package) (cause : GraphCause) : Action (List Diagnostic) := do
  Action.log .warning <|
    s!"Could not decode the import graph for package {package.name}, " ++
      "skipping its audit: " ++ cause.reason
  pure []

/-- Compares what a package declares with what it uses. -/
def compare (context : AuditContext) (package : Package) (graph : ImportGraph) :
    Action (List Diagnostic) := do
  let declared ← Action.ofExcept (context.declaredOf package.name)
  let report := graph.usage package.name declared
  Action.logAll [graph.usageRecord package.name report]
  pure (report.diagnostics package.name context.installCommand)

/-- Audits a package. -/
def auditPackage (context : AuditContext) (package : Package) : Action (List Diagnostic) := do
  let globs ← Action.ofExcept (context.globsFor package)
  match ← Action.outcome (context.graphOf globs) with
  | .ok graph => context.compare package graph
  | .error (.fault (.graph fault)) => skip package fault.cause
  | .error failure => throw failure

/-- The packages in a scope. -/
def packagesIn (context : AuditContext) : Scope → Except Failure (List Package)
  | .all => .ok context.packages
  | .single name =>
    match context.packages.find? (·.name == canonicalName name) with
    | some package => .ok [package]
    | none =>
      .error (.fault (.config
        (.unknownPackage (canonicalName name) (context.packages.map (·.name)))))
  | .unknown value => .error (.notAScope value)

/-- Requires a number of workers that is at least one. -/
def checkWorkers (workers : Value) : Except Failure Unit :=
  match Settings.isBelowOne? workers with
  | none => .error (.workersKind workers.kindName)
  | some true => .error .noWorkers
  | some false => .ok ()

/-- Whether a number of workers is one; a truth value counts as zero or one, and what is not a
number is not one. -/
def isOne : Value → Bool
  | .bool value => value
  | .int value => value == 1
  | .float value => value == 1
  | _ => false

/-- Audits packages, one after the other or side by side. This also goes for a number of workers
that is not a number, with which nobody would start on two or more packages and the audit of them
would wait without end; such an audit is taken to end here. -/
def auditPackages (context : AuditContext) (workers : Value) (packages : List Package) :
    Action (List (List Diagnostic)) :=
  if isOne workers || packages.length < 2 then
    Action.inTurn (packages.map context.auditPackage)
  else Action.all (packages.map context.auditPackage)

/-- Audits the packages in a scope and gives what is found, in the order of the packages. -/
def audit (context : AuditContext) (workers : Value) (scope : Scope) :
    Action (List Diagnostic) := do
  Action.ofExcept (checkWorkers workers)
  let packages ← Action.ofExcept (context.packagesIn scope)
  Action.log .info "Looking for unused and undeclared transitive dependencies..."
  let found ← context.auditPackages workers packages
  if found.flatten.isEmpty then
    Action.log .info "No problems found in dependency usage"
  pure found.flatten

end AuditContext

end BuildAudit
