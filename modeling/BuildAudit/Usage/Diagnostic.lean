import BuildAudit.Usage.Report
import BuildAudit.Value.Basic

/-!
# Diagnostics

A report turns into at most two diagnostics: one about the unused dependencies of a package and one
about the undeclared ones. Every list in a diagnostic is in ascending order.
-/

namespace BuildAudit

/-- The command that is suggested when no other is configured. -/
def defaultInstallCommand : String := "spago install"

/-- The command that adds dependencies to a package. -/
def fixCommand (package : String) (dependencies : List String) (installCommand : String) : String :=
  s!"{installCommand} -p {package} " ++ " ".intercalate (sortNames dependencies)

/-- A finding about a package. -/
inductive Diagnostic where
  /-- The package declares dependencies that it does not use. -/
  | unused (package : String) (dependencies : NameSet)
  /-- The package uses packages that it does not declare, through the given imports. -/
  | transitive (package : String) (modules : Table ImportTable) (installCommand : String)
deriving DecidableEq, Repr

namespace Diagnostic

/-- The package that the finding is about. -/
def package : Diagnostic → String
  | .unused package _ => package
  | .transitive package _ _ => package

/-- The name of the violated rule. -/
def kind : Diagnostic → String
  | .unused .. => "unused_dependency"
  | .transitive .. => "transitive_dependency"

/-- The packages that offend. -/
def dependencies : Diagnostic → List String
  | .unused _ dependencies => dependencies
  | .transitive _ modules _ => modules.keys

/-- The lines about a module that imports from an undeclared package. -/
def moduleLines (entry : CodeText × ModuleSet) : List CodeText :=
  ("    from `" ++ entry.1 ++ "`, which imports:") :: entry.2.map fun target => "      " ++ target

/-- The lines about an undeclared package. -/
def dependencyLines (entry : String × ImportTable) : List CodeText :=
  .ofString ("  " ++ entry.1) :: entry.2.flatMap moduleLines

/-- The lines of the message. -/
def lines : Diagnostic → List CodeText
  | .unused package dependencies =>
    .ofString (s!"Sources for package '{package}' declares unused dependencies - " ++
      "please remove them from the project config:") ::
        dependencies.map fun name => .ofString ("  - " ++ name)
  | .transitive package modules installCommand =>
    .ofString (s!"Sources for package '{package}' " ++
      "import the following transitive dependencies - " ++
      "please add them to the project dependencies, or remove the imports:") ::
        modules.flatMap dependencyLines ++
      [.ofString "Run the following command to install them all:",
        .ofString ("  " ++ fixCommand package modules.keys installCommand)]

/-- The message. -/
def message (diagnostic : Diagnostic) : CodeText :=
  .separatedBy '\n' diagnostic.lines

/-- A list of texts as a value. -/
def textsValue (texts : List CodeText) : JsonValue :=
  .list (texts.map .string)

/-- The form for machines. -/
def toValue (diagnostic : Diagnostic) : JsonValue :=
  let common : JsonObject := [
    ("kind", .string diagnostic.kind),
    ("package", .string diagnostic.package),
    ("message", .string diagnostic.message),
    ("dependencies", textsValue (diagnostic.dependencies.map .ofString))]
  match diagnostic with
  | .unused .. => .table common
  | .transitive package modules installCommand =>
    let additional : JsonObject := [
      ("modules", .table (modules.map fun entry =>
        (.ofString entry.1, .table (entry.2.map fun uses => (uses.1, textsValue uses.2))))),
      ("fix_command", .string (fixCommand package modules.keys installCommand))]
    .table (common ++ additional)

end Diagnostic

/-- The diagnostics of a report: the unused dependencies first, then the undeclared ones. -/
def UsageReport.diagnostics (report : UsageReport) (package installCommand : String) :
    List Diagnostic :=
  (if report.unused.isEmpty then [] else [.unused package report.unused]) ++
    if report.undeclared.isEmpty then []
    else
      [.transitive package
        (report.undeclared.sorted.map fun entry => (entry.1, entry.2.sorted)) installCommand]

end BuildAudit
