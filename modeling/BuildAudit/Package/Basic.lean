import BuildAudit.OrderedSet
import BuildAudit.Package.Layout
import BuildAudit.Package.Name

/-!
# Workspace packages

A package that is developed in the workspace, with the packages that it declares to depend on.
-/

namespace BuildAudit

/-- A package of the workspace. -/
structure Package where
  /-- The canonical name. -/
  name : String
  /-- The directory of the package. -/
  path : String
  /-- The canonical names of the declared dependencies. -/
  dependencies : NameSet
  /-- Whether the package asks for its dependencies to be audited. -/
  optsIn : Bool
  /-- The name is in canonical form. -/
  name_canonical : canonicalName name = name
  /-- The names of the declared dependencies are in canonical form. -/
  dependencies_canonical : ∀ dependency ∈ dependencies, canonicalName dependency = dependency
deriving DecidableEq

namespace Package

/-- The package with the given names in canonical form. -/
def make (name path : String) (dependencies : List String) (optsIn : Bool) : Package where
  name := canonicalName name
  path := path
  dependencies := OrderedSet.ofList (dependencies.map canonicalName)
  optsIn := optsIn
  name_canonical := canonicalName_canonicalName name
  dependencies_canonical := by simp

/-- The directory that holds the package's modules. -/
def root (package : Package) : String :=
  sourceRoot package.path

/-- The pattern that the package's source files match. -/
def glob (package : Package) : String :=
  within package.root "**/*.purs"

end Package

end BuildAudit
