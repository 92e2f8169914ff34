import BuildAudit.Session
import BuildAudit.Value.Text
import BuildAudit.Workspace.Basic

/-!
# Reading a workspace

A workspace is described by the tables `workspace` and `dependencies` of a configuration. The first
part that does not have the required form is reported.
-/

namespace BuildAudit.Workspace

/-- The failure of a part without the required form. -/
def malformed (source? : Option String) (key : String) (value : Value) (reason : String) :
    Failure :=
  .invalid key value reason source?

/-- The entries of packages in a configuration. -/
def packageEntries (source? : Option String) (config : Table Value) :
    Except Failure (List Value) :=
  let workspace := (config.get? "workspace").getD (.table [])
  match workspace.asTable? with
  | none => .error (malformed source? "workspace" workspace "expected a table")
  | some fields =>
    let packages := (fields.get? "packages").getD (.list [])
    match packages.asList? with
    | none =>
      .error (malformed source? "workspace.packages" packages "expected an array of tables")
    | some entries => .ok entries

/-- Reads the entry of a package. -/
def readPackage (source? : Option String) (entry : Value) : Except Failure Package :=
  match entry with
  | .table fields =>
    match (Table.get? fields "name").bind Value.asString? with
    | none =>
      .error (malformed source? "workspace.packages" entry "each package needs a `name`")
    | some name =>
      let dependencies := (Table.get? fields "dependencies").getD (.list [])
      match dependencies.asStrings? with
      | none =>
        .error (malformed source? s!"workspace.packages.{name}.dependencies" dependencies
          "expected a list of package names")
      | some names =>
        let path := (Table.get? fields "path").getD (.string ".")
        if path.isUnwritable then .error .longNumber
        else
          .ok (Package.make name path.text names
            ((Table.get? fields "pedantic_packages").getD (.bool false)).isOn)
  | _ => .error (malformed source? "workspace.packages" entry "each package needs a `name`")

/-- Reads the directories of the external packages. -/
def readDependencies (source? : Option String) (config : Table Value) :
    Except Failure (Table String) :=
  let dependencies := (config.get? "dependencies").getD (.table [])
  match dependencies.asTable?.bind (·.mapM fun entry => (entry.2.asString?).map (entry.1, ·)) with
  | none =>
    .error (malformed source? "dependencies" dependencies
      "expected a table of name = source directory")
  | some directories => .ok directories

/-- Reads a workspace from a configuration. -/
def ofConfig (config : Table Value) (root : PosixPath) (source? : Option String) :
    Except Failure Workspace := do
  let entries ← packageEntries source? config
  let packages ← entries.mapM (readPackage source?)
  let dependencies ← readDependencies source? config
  (make packages dependencies root).mapError .ofConfig

end BuildAudit.Workspace
