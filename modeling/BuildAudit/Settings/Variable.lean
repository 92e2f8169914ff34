import BuildAudit.Table
import BuildAudit.Text.Integer
import BuildAudit.Text.Lowercase
import BuildAudit.Value.Basic

/-!
# Settings from the environment

Some settings can be given by environment variables. What the text of a variable means depends on
the kind of the setting; a setting that a text cannot give is left as it is.
-/

namespace BuildAudit

/-- What the text of a variable is read as. -/
inductive VariableKind where
  /-- A truth value. -/
  | truth
  /-- A whole number. -/
  | number
  /-- A text. -/
  | text
  /-- Nothing: the setting has parts. -/
  | compound
deriving DecidableEq, Repr

/-- What is wrong with the text of a variable. -/
inductive VariableFault where
  /-- It is no truth value. -/
  | notTruth (text : String)
  /-- It is no whole number. -/
  | notNumber (fault : Text.IntegerFault)

/-- The message of a fault. -/
def VariableFault.message : VariableFault → String
  | .notTruth text => s!"expected true/false, got '{text}'"
  | .notNumber fault => fault.message

/-- Reads a truth value, in any case. -/
def readTruth? (text : String) : Option Bool :=
  let word := String.ofList (Text.lower text.toList)
  if ["true", "1", "yes", "on"].contains word then some true
  else if ["false", "0", "no", "off"].contains word then some false
  else none

/-- Reads the text of a variable; nothing results if the setting has parts. -/
def VariableKind.read (kind : VariableKind) (text : String) :
    Except VariableFault (Option Value) :=
  match kind with
  | .truth =>
    match readTruth? text with
    | none => .error (.notTruth text)
    | some value => .ok (some (.bool value))
  | .number =>
    match Text.readInteger text with
    | .error fault => .error (.notNumber fault)
    | .ok value => .ok (some (.int value))
  | .text => .ok (some (.string text))
  | .compound => .ok none

/-- A setting that a variable may give. -/
structure Variable where
  /-- The name of the setting. -/
  key : String
  /-- The name of the variable. -/
  name : String
  /-- What its text is read as. -/
  kind : VariableKind
deriving DecidableEq, Repr

/-- The variables in the order in which they are read. -/
def settingVariables : List Variable := [
  { key := "pedantic_packages", name := "PEDANT_PEDANTIC_PACKAGES", kind := .truth },
  { key := "jobs", name := "PEDANT_JOBS", kind := .number },
  { key := "output", name := "PEDANT_OUTPUT", kind := .text },
  { key := "compiler", name := "PEDANT_COMPILER", kind := .text },
  { key := "compiler_args", name := "PEDANT_COMPILER_ARGS", kind := .compound },
  { key := "backend", name := "PEDANT_BACKEND", kind := .compound },
  { key := "install_command", name := "PEDANT_INSTALL_COMMAND", kind := .text },
  { key := "verbosity", name := "PEDANT_VERBOSITY", kind := .text }]

end BuildAudit
