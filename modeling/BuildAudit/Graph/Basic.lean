import BuildAudit.OrderedSet
import BuildAudit.Package.Name
import BuildAudit.Table
import BuildAudit.Text.CodeText

/-!
# Import graphs

An import graph says which package owns each module and which modules import which directly. Every
module that imports or is imported has an owner. The names of modules are texts of code points.
-/

namespace BuildAudit

/-- A set of modules. -/
abbrev ModuleSet := OrderedSet CodeText

/-- The package that owns each module. -/
abbrev OwnerTable := Table String CodeText

/-- A direct import. -/
structure Edge where
  /-- The module that imports. -/
  source : CodeText
  /-- The module that is imported. -/
  target : CodeText
deriving DecidableEq, Repr

namespace Edge

/-- Imports are ordered by the importing module and then by the imported one. -/
instance : LT Edge where
  lt a b := a.source < b.source ∨ (a.source = b.source ∧ a.target < b.target)

instance : DecidableLT Edge := fun a b =>
  inferInstanceAs (Decidable (a.source < b.source ∨ (a.source = b.source ∧ a.target < b.target)))

/-- Whether both ends of an import are keys of a table of owners. -/
def isOwned (owners : OwnerTable) (edge : Edge) : Bool :=
  owners.hasKey edge.source && owners.hasKey edge.target

end Edge

/-- The owners of modules and the imports between them. -/
structure ImportGraph where
  /-- The canonical name of the package that owns each module. -/
  owners : OwnerTable
  /-- The imports. -/
  edges : OrderedSet Edge
  /-- Both ends of every import have owners. -/
  owned : ∀ edge ∈ edges, edge.isOwned owners = true

/-- An import that has an end without an owner. -/
structure UnownedModule where
  /-- The import. -/
  edge : Edge
  /-- Its first end that has no owner. -/
  module : CodeText
deriving DecidableEq, Repr

/-- The message about a module without an owner. -/
def UnownedModule.message (fault : UnownedModule) : CodeText :=
  .separatedBy ' ' [
    "Import edge " ++ fault.edge.source ++ " ->",
    fault.edge.target ++ " references unowned module",
    fault.module]

namespace ImportGraph

/-- The graph of those imports whose ends both have owners. -/
def restrict (owners : OwnerTable) (edges : List Edge) : ImportGraph where
  owners := owners.map fun entry => (entry.1, canonicalName entry.2)
  edges :=
    (OrderedSet.ofList edges).filter
      (Edge.isOwned (owners.map fun entry => (entry.1, canonicalName entry.2)))
  owned := fun _ h => (List.mem_filter.1 h).2

/-- The first end of an import that is no key of a table of owners. -/
def unowned? (owners : OwnerTable) (edge : Edge) : Option UnownedModule :=
  if !owners.hasKey edge.source then some { edge, module := edge.source }
  else if !owners.hasKey edge.target then some { edge, module := edge.target }
  else none

/-- The graph of the given imports, all of whose ends must have owners. -/
def ofEdges (owners : OwnerTable) (edges : List Edge) : Except UnownedModule ImportGraph :=
  match edges.findSome? (unowned? owners) with
  | some fault => .error fault
  | none => .ok (restrict owners edges)

/-- The imports that lists of imported modules stand for. -/
def edgesOf (imports : Table (List CodeText) CodeText) : List Edge :=
  imports.flatMap fun entry => entry.2.map fun target => { source := entry.1, target }

/-- The package that owns a module. -/
def ownerOf? (graph : ImportGraph) (module : CodeText) : Option String :=
  graph.owners.get? module

/-- The modules that a package owns. -/
def modulesOf (graph : ImportGraph) (package : String) : ModuleSet :=
  OrderedSet.ofList
    (graph.owners.keys.filter fun module => graph.ownerOf? module == some (canonicalName package))

/-- The modules that a module imports. -/
def importsOf (graph : ImportGraph) (module : CodeText) : ModuleSet :=
  OrderedSet.ofList ((graph.edges.filter (·.source == module)).map (·.target))

/-- The packages that own modules. -/
def packages (graph : ImportGraph) : NameSet :=
  OrderedSet.ofList graph.owners.values

end ImportGraph

end BuildAudit
