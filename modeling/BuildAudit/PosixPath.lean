import BuildAudit.Text.CodeText
import BuildAudit.Text.Pieces

/-!
# Paths

A path is an anchor followed by names. Empty names and single dots on the way are dropped when a
path is read, double dots are kept. A path with exactly two slashes in front has an anchor of its
own; any other number of slashes in front counts as one.
-/

namespace BuildAudit

/-- Where a path starts. -/
inductive Anchor where
  /-- At the directory that the path is used in. -/
  | relative
  /-- At the root. -/
  | root
  /-- At the root that two slashes stand for. -/
  | doubleRoot
deriving DecidableEq, Repr

/-- The slashes in front of a path. -/
def Anchor.text : Anchor → String
  | .relative => ""
  | .root => "/"
  | .doubleRoot => "//"

/-- A place in a tree of directories, with names of a type `ν`. -/
structure PosixPath (ν : Type := String) where
  /-- Where the path starts. -/
  anchor : Anchor
  /-- The names on the way. -/
  names : List ν
deriving DecidableEq, Repr

namespace PosixPath

section Reading

variable {α : Type} [DecidableEq α] [Alphabet α]

/-- The anchor of a path's text, by the number of slashes in front. -/
def anchorOf (text : List α) : Anchor :=
  match (text.takeWhile (· = Alphabet.ofChar '/')).length with
  | 0 => .relative
  | 2 => .doubleRoot
  | _ => .root

/-- Whether a piece of a path's text is a name. -/
def isName (piece : List α) : Bool :=
  piece != [] && piece != [Alphabet.ofChar '.']

/-- Reads a path whose names are texts of the same symbols. -/
def ofList (text : List α) : PosixPath (List α) where
  anchor := anchorOf text
  names := (Text.pieces (Alphabet.ofChar '/') text).filter isName

end Reading

/-- Reads a path. -/
def ofChars (cs : List Char) : PosixPath where
  anchor := anchorOf cs
  names := (ofList cs).names.map String.ofList

/-- Reads a path. -/
def ofText (text : String) : PosixPath :=
  ofChars text.toList

section Places

variable {ν : Type}

/-- The directory that a relative path is used in. -/
def here : PosixPath ν :=
  { anchor := .relative, names := [] }

/-- The number of parts of a path, its anchor included. -/
def depth (path : PosixPath ν) : Nat :=
  path.names.length + (if path.anchor = .relative then 0 else 1)

/-- Goes from a directory along a path; a path with an anchor starts afresh. -/
def join (directory path : PosixPath ν) : PosixPath ν :=
  if path.anchor = .relative then { directory with names := directory.names ++ path.names }
  else path

/-- The directory that a path lies in. -/
def parent (path : PosixPath ν) : PosixPath ν :=
  { path with names := path.names.dropLast }

/-- Whether a path lies in a directory or is that directory. The relative path without names
contains every path. -/
def contains [DecidableEq ν] (directory path : PosixPath ν) : Bool :=
  directory == here ||
    (directory.anchor == path.anchor && directory.names.isPrefixOf path.names)

end Places

/-- The text of a path. -/
def text (path : PosixPath) : String :=
  if path = here then "." else path.anchor.text ++ "/".intercalate path.names

end PosixPath

end BuildAudit
