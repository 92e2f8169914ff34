import BuildAudit.Package.Layout
import BuildAudit.Session
import BuildAudit.Text.LineEnds
import BuildAudit.Text.Utf8

/-!
# The module with the build information

Every compiled set of sources includes a generated module that lists the packages of the workspace.
The file is written only if it would change; a file that differs in its line ends alone counts as
unchanged.
-/

namespace BuildAudit

/-- The version of the program. -/
def version : String := "0.3.0"

/-- The name of the generated module. -/
def buildInfoModule : String := "Pedant.Generated.BuildInfo"

/-- The list of package names in the module. -/
def packageListing (packages : List String) : String :=
  match sortNames packages with
  | [] => "[]"
  | names => "[ " ++ "\n  , ".intercalate (names.map fun name => "\"" ++ name ++ "\"") ++ "\n  ]"

/-- The text of the generated module. -/
def renderBuildInfo (packages : List String) (version : String) : String :=
  "-- @inline export packages always\n" ++
  s!"module {buildInfoModule} where\n" ++
  "\n" ++
  "packages :: Array String\n" ++
  "packages =\n" ++
  s!"  {packageListing packages}\n" ++
  "\n" ++
  "pedantVersion :: String\n" ++
  "pedantVersion = \"" ++ version ++ "\"\n"

/-- Whether a file holds a text, line ends apart. -/
def holdsText (files : FileTree) (path : PosixPath) (text : String) : Except Failure Bool :=
  match files.read path with
  | .error fault => .error (.file fault)
  | .ok content =>
    match Text.Utf8.decode content with
    | .error _ => .error .notText
    | .ok found => .ok (Text.unifyLineEnds found.toList == text.toList)

/-- Writes a text to a file, in a directory that is made if it is missing. -/
def writeText (path : PosixPath) (text : String) : Action Unit := fun session =>
  match
    (session.files.makeDirectory path.parent).bind (·.write path (Text.Utf8.encode text)) with
  | .error fault => (.error (.file fault), session)
  | .ok files => (.ok (), { session with files, events := session.events ++ [.wrote path] })

/-- Writes the module under a directory unless it is there already, and gives its path. -/
def writeBuildInfo (root : PosixPath) (packages : List String) : Action PosixPath := do
  let path := root.join (.ofText buildInfoPath)
  let text := renderBuildInfo packages version
  let files := (← get).files
  let present ← Action.ofExcept ((files.hasPath path).mapError .file)
  let upToDate ← if present then Action.ofExcept (holdsText files path text) else pure false
  if upToDate then pure path
  else do
    writeText path text
    Action.log .debug s!"Wrote {path.text}"
    pure path

end BuildAudit
