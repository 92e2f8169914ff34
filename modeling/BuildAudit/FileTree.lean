import BuildAudit.PosixPath

/-!
# Trees of files

The files and directories that the program can see. A path is followed name by name from the root or
from the working directory, and every step leads out of a directory: a name is looked up in it, two
dots go back to the directory around it. A name has at most `maxName` octets, and a path at most
`maxPath`.

Two things that a host refuses are left out. The character with the code 0 may stand in a name like
any other, and names of directories that are made are not measured (`makeAlong`): a directory with
too long a name is made, and only what is then to be followed through it is refused.
-/

namespace BuildAudit

/-- What can go wrong with a file. -/
inductive FileFault where
  /-- There is nothing at the path. -/
  | missing
  /-- Something that is no directory stands where a directory is needed. -/
  | notADirectory
  /-- A directory stands where a file is needed. -/
  | isADirectory
  /-- A file stands where a directory is to be made. -/
  | exists
  /-- The path or a name on it is too long. -/
  | tooLong
deriving DecidableEq, Repr

/-- What stands at a place in a tree. -/
inductive FileNode where
  /-- A file with its octets. -/
  | file (content : List UInt8)
  /-- A directory. -/
  | directory
deriving DecidableEq, Repr

/-- A place in a tree: the names on the way from the root. -/
abbrev Place := List String

/-- Files and directories with the directory that relative paths start from. -/
structure FileTree where
  /-- What stands where; the root is always a directory and is not listed. -/
  nodes : List (Place × FileNode)
  /-- The working directory. -/
  workingDirectory : Place
deriving DecidableEq, Repr

namespace FileTree

/-- What stands at a place. -/
def node? (tree : FileTree) (place : Place) : Option FileNode :=
  if place = [] then some .directory else tree.nodes.lookup place

/-- Puts a node at a place. -/
def put (tree : FileTree) (place : Place) (node : FileNode) : FileTree :=
  { tree with nodes := (place, node) :: tree.nodes.filter (·.1 != place) }

/-- The most octets of a name. -/
def maxName : Nat := 255

/-- The most octets of a path. -/
def maxPath : Nat := 4095

/-- The place that a path leads to from a place, which must be a directory if the path goes on. A
name may hold any character. -/
def follow (tree : FileTree) (place : Place) : List String → Except FileFault Place
  | [] => .ok place
  | name :: rest =>
    match tree.node? place with
    | none => .error .missing
    | some (.file _) => .error .notADirectory
    | some .directory =>
      if name = ".." then follow tree place.dropLast rest
      else if name.utf8ByteSize > maxName then .error .tooLong
      else follow tree (place ++ [name]) rest

/-- The place that a path leads to. -/
def placeOf (tree : FileTree) (path : PosixPath) : Except FileFault Place :=
  if path.text.utf8ByteSize > maxPath then .error .tooLong
  else follow tree (if path.anchor = .relative then tree.workingDirectory else []) path.names

/-- What stands at a path. -/
def find (tree : FileTree) (path : PosixPath) : Except FileFault FileNode := do
  let place ← tree.placeOf path
  match tree.node? place with
  | none => .error .missing
  | some node => .ok node

/-- What stands at a path, if anything does; a path that is too long cannot be asked for. -/
def find? (tree : FileTree) (path : PosixPath) : Except FileFault (Option FileNode) :=
  match tree.find path with
  | .ok node => .ok (some node)
  | .error .tooLong => .error .tooLong
  | .error _ => .ok none

/-- Whether anything stands at a path. -/
def hasPath (tree : FileTree) (path : PosixPath) : Except FileFault Bool :=
  (tree.find? path).map (·.isSome)

/-- Whether a directory stands at a path. -/
def isDirectory (tree : FileTree) (path : PosixPath) : Except FileFault Bool :=
  (tree.find? path).map (· == some .directory)

/-- The octets of the file at a path. -/
def read (tree : FileTree) (path : PosixPath) : Except FileFault (List UInt8) := do
  match ← tree.find path with
  | .file content => .ok content
  | .directory => .error .isADirectory

/-- Writes the file at a path, in a directory that must be there. -/
def write (tree : FileTree) (path : PosixPath) (content : List UInt8) :
    Except FileFault FileTree := do
  let place ← tree.placeOf path
  match tree.node? place with
  | some .directory => .error .isADirectory
  | _ =>
    match tree.node? place.dropLast with
    | some .directory => .ok (tree.put place (.file content))
    | some (.file _) => .error .notADirectory
    | none => .error .missing

/-- Makes the directories on the way along names from a place, as far as they are missing, however
long the names are. -/
def makeAlong (tree : FileTree) (place : Place) : List String → Except FileFault FileTree
  | [] => .ok tree
  | name :: rest =>
    if name = ".." then makeAlong tree place.dropLast rest
    else
      match tree.node? (place ++ [name]) with
      | some .directory => makeAlong tree (place ++ [name]) rest
      | some (.file _) => .error (if rest = [] then .exists else .notADirectory)
      | none => makeAlong (tree.put (place ++ [name]) .directory) (place ++ [name]) rest

/-- Makes the directory at a path with all directories around it. -/
def makeDirectory (tree : FileTree) (path : PosixPath) : Except FileFault FileTree :=
  makeAlong tree (if path.anchor = .relative then tree.workingDirectory else []) path.names

end FileTree

end BuildAudit
