import BuildAudit.Session

/-!
# External tools

The tools of a build are given as functions of the calls made before and of the call itself. An
answer is a result or a failure, together with the records that are logged on the way.
-/

namespace BuildAudit

/-- What a tool answers. -/
structure Reply (α : Type) where
  /-- The records logged on the way. -/
  records : List LogRecord
  /-- The result, or why there is none. -/
  answer : Except Failure α

/-- The tools of a build. -/
structure Tools where
  /-- Compiles the sources that match patterns. -/
  compile : List ToolCall → List String → List String → Reply Unit
  /-- Lists the imports of the sources that match patterns. -/
  graph : List ToolCall → List String → List String → Reply ImportGraph
  /-- Runs a backend. -/
  backend : List ToolCall → String → List String → Reply Unit

namespace Tools

variable {α : Type}

/-- Makes a call: notes it, logs what the tool logs, and gives its answer. -/
def perform (call : ToolCall) (reply : List ToolCall → Reply α) : Action α := do
  let past := (← get).calls
  Action.note (.called call)
  Action.logAll (reply past).records
  Action.ofExcept (reply past).answer

/-- Calls the compiler. -/
def runCompile (tools : Tools) (globs : List String) (arguments : List String) : Action Unit :=
  perform (.compile globs arguments) fun past => tools.compile past globs arguments

/-- Calls for the import graph. -/
def runGraph (tools : Tools) (globs : List String) (arguments : List String) : Action ImportGraph :=
  perform (.graph globs arguments) fun past => tools.graph past globs arguments

/-- Calls a backend. -/
def runBackend (tools : Tools) (command : String) (arguments : List String) : Action Unit :=
  perform (.backend command arguments) fun past => tools.backend past command arguments

end Tools

end BuildAudit
