import BuildAudit.Workspace.Basic

/-!
# Source patterns of a workspace

Which sources a build compiles and an audit graphs, and who owns them. The module with the build
information is part of every set of sources.
-/

namespace BuildAudit.Workspace

/-- The patterns of all external packages. -/
def dependencyGlobs (workspace : Workspace) : NameSet :=
  OrderedSet.ofList (workspace.dependencies.values.map sourceGlob)

/-- The patterns that a build compiles. With a selected package these are the other packages, the
external ones, and the selected one unless only dependencies are asked for; without a selected
package all packages are compiled in any case. -/
def buildGlobs (workspace : Workspace) (selected? : Option String) (dependenciesOnly : Bool) :
    Except ConfigFault NameSet := do
  let chosen ←
    match selected? with
    | none => pure workspace.packages
    | some name => do
      let package ← workspace.packageOf name
      pure ((workspace.packages.filter (·.name != package.name)) ++
        if dependenciesOnly then [] else [package])
  pure (OrderedSet.ofList
    (workspace.dependencyGlobs ++ buildInfoPath :: chosen.map (·.glob)))

/-- The patterns that are graphed to audit a package: all packages, the external ones, and the
package itself. -/
def auditGlobs (workspace : Workspace) (package : Package) : NameSet :=
  OrderedSet.ofList
    (workspace.dependencyGlobs ++ workspace.packages.map (·.glob) ++ [package.glob, buildInfoPath])

/-- Who owns the sources of the packages and of the external packages. -/
def ownership (workspace : Workspace) : Ownership :=
  Ownership.ofPairs <|
    workspace.dependencies.map
        (fun entry => (CodeText.ofString (sourceRoot entry.2), canonicalName entry.1)) ++
      workspace.packages.map fun package => (.ofString package.root, package.name)

end BuildAudit.Workspace
