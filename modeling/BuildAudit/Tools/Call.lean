/-!
# Calls of the external tools

A build uses three tools: the compiler that compiles, the compiler that lists imports, and the
backend that goes on with what the compiler made.
-/

namespace BuildAudit

/-- A call of an external tool. -/
inductive ToolCall where
  /-- Compiles the sources that match patterns. -/
  | compile (globs : List String) (arguments : List String)
  /-- Lists the imports of the sources that match patterns. -/
  | graph (globs : List String) (arguments : List String)
  /-- Runs a backend. -/
  | backend (command : String) (arguments : List String)
deriving DecidableEq, Repr

end BuildAudit
