import BuildAudit.Graph.Basic
import BuildAudit.Graph.Fault
import BuildAudit.Json.Reader
import BuildAudit.Log
import BuildAudit.Ownership

/-!
# Import graphs in JSON

The compiler prints an object with an entry for each module: the path of its source file and the
list of the modules that it imports. A module belongs to the package that owns its path. Modules
that nobody owns are left out together with all imports of them.
-/

namespace BuildAudit

/-- A module as the compiler lists it. -/
structure ModuleEntry where
  /-- The path of the source file. -/
  path : CodeText
  /-- The imported modules. -/
  imports : List CodeText
deriving DecidableEq, Repr

/-- Reads the entry of a module. -/
def readEntry (module : CodeText) (value : JsonValue) : Except GraphCause ModuleEntry :=
  match value.asTable? with
  | none => .error (.entryNotAnObject module value.kindName)
  | some fields =>
    match (fields.get? "path").bind Value.asString? with
    | none => .error (.noPath module)
    | some path =>
      match ((fields.get? "depends").getD (.list [])).asStrings? with
      | none => .error (.badImports module)
      | some imports => .ok { path, imports }

/-- A module that belongs to a package. -/
structure OwnedModule where
  /-- The name of the module. -/
  name : CodeText
  /-- The package that owns it. -/
  owner : String
  /-- The imported modules. -/
  imports : List CodeText
deriving DecidableEq, Repr

/-- The record of a module that is left out. -/
def ignored (module path : CodeText) : LogRecord where
  level := .debug
  text :=
    .separatedBy ' ' ["Module " ++ module, "(" ++ path ++ ") has no owning package, ignoring"]

/-- Reads the entries of modules in turn and keeps the modules that have owners. -/
def readModules (ownership : Ownership) :
    JsonObject → List LogRecord × Except GraphCause (List OwnedModule)
  | [] => ([], .ok [])
  | (module, value) :: rest =>
    match readEntry module value with
    | .error cause => ([], .error cause)
    | .ok entry =>
      let (logs, modules) := readModules ownership rest
      match ownership.ownerOf? entry.path with
      | none => (ignored module entry.path :: logs, modules)
      | some owner => (logs, modules.map ({ name := module, owner, imports := entry.imports } :: ·))

/-- The owners of modules. -/
def ownersOf (modules : List OwnedModule) : OwnerTable :=
  modules.map fun module => (module.name, module.owner)

/-- The imports of modules, without those of other modules. -/
def importsAmong (modules : List OwnedModule) : Table (List CodeText) CodeText :=
  modules.map fun module => (module.name, module.imports.filter (ownersOf modules).hasKey)

/-- The graph of modules and of the imports between them. -/
def ImportGraph.ofModules (modules : List OwnedModule) : ImportGraph :=
  .restrict (ownersOf modules) (edgesOf (importsAmong modules))

/-- Reads an import graph from a value. -/
def ImportGraph.ofValue (ownership : Ownership) (value : JsonValue) :
    List LogRecord × Except GraphCause ImportGraph :=
  match value.asTable? with
  | none => ([], .error (.notAnObject value.kindName))
  | some entries =>
    let (logs, modules) := readModules ownership entries
    (logs, modules.map .ofModules)

/-- Reads an import graph from the compiler's output. -/
def ImportGraph.ofOutput (ownership : Ownership) (output : String) :
    List LogRecord × Except OutputFault ImportGraph :=
  match Json.read output with
  | .error (.fault fault) => ([], .error (.cause (.notJson output fault)))
  | .error (.excess excess) => ([], .error (.excess excess))
  | .ok value =>
    let (logs, graph) := ImportGraph.ofValue ownership value
    (logs, graph.mapError .cause)

end BuildAudit
