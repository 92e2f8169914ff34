import BuildAudit.Text.Blank

/-!
# Backends

A backend is a command that goes on with what the compiler made.
-/

namespace BuildAudit

/-- A command with arguments. -/
structure Backend where
  /-- The command. -/
  command : String
  /-- Its arguments. -/
  arguments : List String
  /-- The command is not blank. -/
  command_visible : Text.isBlankText command = false
deriving DecidableEq

/-- The backend with a command, unless the command is blank. -/
def Backend.make? (command : String) (arguments : List String) : Option Backend :=
  if h : Text.isBlankText command = false then some { command, arguments, command_visible := h }
  else none

end BuildAudit
