import BuildAudit.Json.Fault
import BuildAudit.Text.CodeText

/-!
# Why an import graph cannot be had

The tool that prints the graph may fail to run, and what it prints may fail to be a graph. A missing
graph never ends a build.
-/

namespace BuildAudit

/-- Why an import graph cannot be had. -/
inductive GraphCause where
  /-- The output is not JSON. -/
  | notJson (output : String) (fault : Json.Fault)
  /-- The output is not an object. -/
  | notAnObject (kind : String)
  /-- The entry of a module is not an object. -/
  | entryNotAnObject (module : CodeText) (kind : String)
  /-- The entry of a module has no path. -/
  | noPath (module : CodeText)
  /-- The imports of a module are not a list of names. -/
  | badImports (module : CodeText)
  /-- The compiler could not be started. -/
  | notRun (command text : String)
  /-- The compiler took longer than it may. -/
  | timedOut (command timeout : String)
  /-- The compiler failed and said why. -/
  | exited (command : String) (code : Int) (complaint : String)
  /-- The output is not text. -/
  | notText (text : String)
  /-- Another reason. -/
  | other (reason : String)

/-- Why an output is not read as an import graph. -/
inductive OutputFault where
  /-- It is no import graph. -/
  | cause (cause : GraphCause)
  /-- It goes beyond what can be read. -/
  | excess (excess : Json.Excess)

/-- The wording of a cause. -/
def GraphCause.reason : GraphCause → CodeText
  | .notJson output fault => "invalid JSON: " ++ fault.message output
  | .notAnObject kind => s!"expected an object of modules, got {kind}"
  | .entryNotAnObject module kind => "module " ++ module ++ s!": expected an object, got {kind}"
  | .noPath module => "module " ++ module ++ ": missing or invalid 'path'"
  | .badImports module => "module " ++ module ++ ": 'depends' must be a list of module names"
  | .notRun command text => s!"could not run compiler '{command}': {text}"
  | .timedOut command timeout => s!"`{command} graph` timed out after {timeout}s"
  | .exited command code complaint => s!"`{command} graph` exited with code {code}: {complaint}"
  | .notText text => s!"output is not valid UTF-8: {text}"
  | .other reason => reason

/-- A cause with the package whose graph was asked for, if it is known. -/
structure GraphFault where
  /-- Why the graph cannot be had. -/
  cause : GraphCause
  /-- The package. -/
  package? : Option String := none

end BuildAudit
