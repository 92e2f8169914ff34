import BuildAudit.Graph.Basic
import BuildAudit.Log

/-!
# Declared and used dependencies

A package uses another one when a module of its own directly imports a module of the other. What
those modules import in turn is the business of their own package. Declared packages that are not
used are unused; used packages that are not declared are undeclared, and each is shown with the
imports that use it.
-/

namespace BuildAudit

/-- Importing modules with what they import. -/
abbrev ImportTable := Table ModuleSet CodeText

/-- What an audit finds out about a package. -/
structure UsageReport where
  /-- The declared packages that are not used. -/
  unused : NameSet
  /-- For each used package that is not declared, the importing modules with what they import. -/
  undeclared : Table ImportTable
deriving DecidableEq, Repr

/-- Whether there is nothing to complain about. -/
def UsageReport.isClean (report : UsageReport) : Bool :=
  report.unused.isEmpty && report.undeclared.isEmpty

/-- What a package imports from other packages: for each of these the importing modules with what
they import. -/
abbrev UseTally := Table ImportTable

namespace UseTally

/-- What is imported from a package, by importing module. -/
def importers (tally : UseTally) (package : String) : ImportTable :=
  (tally.get? package).getD []

/-- What a module imports from a package. -/
def targets (tally : UseTally) (package : String) (module : CodeText) : ModuleSet :=
  ((tally.importers package).get? module).getD []

/-- Notes that a module imports another one from a package. -/
def note (tally : UseTally) (package : String) (module target : CodeText) : UseTally :=
  Table.insert tally package <|
    (tally.importers package).insert module
      (OrderedSet.insert target (tally.targets package module))

end UseTally

namespace ImportGraph

/-- Notes an import if it leads from one of the modules of a package to another package. -/
def noteEdge (graph : ImportGraph) (package : String) (modules : ModuleSet) (tally : UseTally)
    (edge : Edge) : UseTally :=
  if modules.contains edge.source then
    match graph.ownerOf? edge.target with
    | none => tally
    | some owner =>
      if owner = package then tally else tally.note owner edge.source edge.target
  else tally

/-- What a package imports from other packages, noted one import after the other. -/
def tally (graph : ImportGraph) (package : String) : UseTally :=
  graph.edges.foldl (graph.noteEdge (canonicalName package) (graph.modulesOf package)) []

/-- What an audit of a package with the given declared dependencies finds out. -/
def usage (graph : ImportGraph) (package : String) (declared : List String) : UsageReport :=
  let declared := OrderedSet.ofList (declared.map canonicalName)
  let tally := graph.tally package
  let used := OrderedSet.ofList tally.keys
  let undeclared := OrderedSet.diff (OrderedSet.diff used declared) [canonicalName package]
  { unused := OrderedSet.diff declared used
    undeclared := undeclared.map fun name => (name, (tally.importers name).sorted) }

/-- The record of an audit. -/
def usageRecord (graph : ImportGraph) (package : String) (report : UsageReport) : LogRecord where
  level := .debug
  text :=
    s!"Package {canonicalName package}: {(graph.modulesOf package).length} local modules, " ++
      s!"{(graph.tally package).length} used packages, {report.unused.length} unused, " ++
      s!"{report.undeclared.length} undeclared"

end ImportGraph

end BuildAudit
