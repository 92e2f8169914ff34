import BuildAudit.Settings.Load
import BuildAudit.Workspace.Parse

/-!
# Loading a workspace

A workspace is loaded from a configuration file, or from the one in a directory. Its directory is
the one that the file is in.
-/

namespace BuildAudit.Workspace

/-- The configuration file that a path stands for. -/
def configPath (files : FileTree) (path : PosixPath) : Except Failure PosixPath := do
  if ← (files.isDirectory path).mapError .file then pure (path.join (.ofText configFileName))
  else pure path

/-- Loads the workspace at a path. -/
def load (files : FileTree) (path : PosixPath) : Except Failure Workspace := do
  let path ← configPath files path
  if ← isPresent files path then
    let config ← (readConfig files path).mapError .ofLoad
    ofConfig config path.parent (some path.text)
  else throw (.ofLoad (.noFile path.text))

end BuildAudit.Workspace
