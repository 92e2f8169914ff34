import BuildAudit.Fault
import BuildAudit.Ownership
import BuildAudit.Package.Basic

/-!
# Workspaces

A workspace is what is built: the packages that are developed in it, in the order of the
configuration, and the directories of the external packages that they depend on. The names of its
packages are pairwise distinct.
-/

namespace BuildAudit

/-- What is built. -/
structure Workspace where
  /-- The packages. -/
  packages : List Package
  /-- The directory of each external package, by canonical name. -/
  dependencies : Table String
  /-- The directory of the workspace. -/
  root : PosixPath
  /-- No two packages have the same name. -/
  names_nodup : (packages.map (·.name)).Nodup

/-- The first name of a list that is among the names before it. -/
def firstRepeated? (before : List String) : List String → Option String
  | [] => none
  | name :: rest => if before.contains name then some name else firstRepeated? (name :: before) rest

namespace Workspace

/-- The workspace of packages, whose names must be distinct. -/
def make (packages : List Package) (dependencies : Table String) (root : PosixPath) :
    Except ConfigFault Workspace :=
  if h : (packages.map (·.name)).Nodup then
    .ok {
      packages := packages
      dependencies :=
        Table.ofEntries (dependencies.map fun entry => (canonicalName entry.1, entry.2))
      root := root
      names_nodup := h }
  else
    .error (.invalid "workspace.packages"
      (.string ((firstRepeated? [] (packages.map (·.name))).getD "")) "duplicate package name" none)

/-- The names of the packages in order. -/
def packageNames (workspace : Workspace) : List String :=
  workspace.packages.map (·.name)

/-- The package of a name. -/
def package? (workspace : Workspace) (name : String) : Option Package :=
  workspace.packages.find? (·.name == canonicalName name)

/-- The package of a name, or the fault that there is none. -/
def packageOf (workspace : Workspace) (name : String) : Except ConfigFault Package :=
  match workspace.package? name with
  | some package => .ok package
  | none => .error (.unknownPackage (canonicalName name) workspace.packageNames)

/-- The packages to audit: all of them, or those that ask for it. -/
def audited (workspace : Workspace) (all : Bool) : List Package :=
  if all then workspace.packages else workspace.packages.filter (·.optsIn)

end Workspace

end BuildAudit
