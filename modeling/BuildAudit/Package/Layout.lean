import BuildAudit.Text.CodeText

/-!
# Where the sources of a package lie

A package keeps its modules under the directory `src` of its own directory. Directories may be
written with backslashes and with slashes at the end.
-/

namespace BuildAudit

/-- The module that every compiled or graphed set of sources includes. -/
def buildInfoPath : String := ".pedant/BuildInfo.purs"

/-- The symbols of a text with slashes for its backslashes. -/
def forwardSlashes {α : Type} [DecidableEq α] [Alphabet α] (text : List α) : List α :=
  text.map fun symbol => if symbol = Alphabet.ofChar '\\' then Alphabet.ofChar '/' else symbol

/-- The text without the slashes at its end. -/
def dropEndSlashes (cs : List Char) : List Char :=
  (cs.reverse.dropWhile (· = '/')).reverse

/-- The place `tail` inside a directory. -/
def within (directory tail : String) : String :=
  let base := dropEndSlashes (forwardSlashes directory.toList)
  if base = [] || base = ['.'] then tail else String.ofList base ++ "/" ++ tail

/-- The directory that holds the modules of a package. -/
def sourceRoot (directory : String) : String :=
  within directory "src"

/-- The pattern that the source files of a package match. -/
def sourceGlob (directory : String) : String :=
  within (sourceRoot directory) "**/*.purs"

end BuildAudit
