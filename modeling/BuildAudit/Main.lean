import BuildAudit.Command.Run
import BuildAudit.Tools.Recording

/-!
# The program

Runs the command line on the files of the disk. The tools are not started; a recording of what they
did is read from the standard input and played back, so that a build can be looked into again where
its tools are not at hand.
-/

namespace BuildAudit

/-- The variables of the environment that settings are read from. -/
def readEnvironment : IO (Table String) := do
  let values ← settingVariables.mapM fun setting => do
    pure ((← IO.getEnv setting.name).map fun text => (setting.name, text))
  pure (values.filterMap id)

/-- Adds a file of the disk, with the directories around it, to a tree. -/
def addFile (files : FileTree) (path : PosixPath) : IO FileTree := do
  let content? ←
    try
      pure (some (← IO.FS.readBinFile path.text))
    catch _ => pure none
  match content? with
  | none => pure files
  | some content =>
    let added := do (← files.makeDirectory path.parent).write path content.toList
    pure (added.toOption.getD files)

/-- Writes a file of a tree to the disk. -/
def saveFile (files : FileTree) (path : PosixPath) : IO Unit := do
  match files.read path with
  | .ok content =>
    IO.FS.createDirAll path.parent.text
    IO.FS.writeBinFile path.text ⟨content.toArray⟩
  | .error _ => pure ()

/-- The configuration files that a build may read. -/
def configPaths (home working : PosixPath) (arguments : List String) : List PosixPath :=
  let named :=
    match Command.readCommandLine arguments with
    | .build build => (build.config?.map PosixPath.ofText).toList
    | _ => []
  home.join (.ofText homeFileName) :: working.join (.ofText configFileName) :: named

/-- The files that the program may read. -/
def readFiles (home working : PosixPath) (arguments : List String) : IO FileTree := do
  let configs := configPaths home working arguments
  let infos := configs.map fun path => path.parent.join (.ofText buildInfoPath)
  let bare : FileTree := { nodes := [], workingDirectory := working.names }
  let rooted := (bare.makeDirectory working).toOption.getD bare
  (configs ++ infos).foldlM addFile rooted

/-- The path that an event wrote to. -/
def writtenPath? : Event → Option PosixPath
  | .wrote path => some path
  | _ => none

/-- Runs the command line on the disk. -/
def runOnDisk (arguments : List String) : IO UInt32 := do
  let working := PosixPath.ofText (← IO.currentDir).toString
  let home := PosixPath.ofText ((← IO.getEnv "HOME").getD "/")
  let recording ← (← IO.getStdin).readToEnd
  let script := (ProcessScript.ofText? recording).getD { runs := [], captures := [] }
  let host : Command.Host :=
    { home, environment := ← readEnvironment, processes := script.processes }
  let files ← readFiles home working arguments
  let completion := Command.run host arguments { files }
  let session := completion.session
  (session.events.filterMap writtenPath?).forM (saveFile session.files)
  for record in Command.visibleRecords arguments session.records do
    IO.eprintln record.line.shown
  IO.print (Command.outputOf completion.ending)
  match completion.ending with
  | .ok ending => IO.eprint ending.errors
  | .error interruption => IO.eprintln ((interruption.message?.getD "interrupted").shown)
  pure (UInt32.ofNat (Command.codeOf completion.ending))

end BuildAudit

/-- Runs the program. -/
def main (arguments : List String) : IO UInt32 :=
  BuildAudit.runOnDisk arguments
