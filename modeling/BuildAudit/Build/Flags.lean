import BuildAudit.Build.Backend
import BuildAudit.Session

/-!
# Reserved flags of the compiler

The output directory belongs to the configuration, and the kind of code that is generated follows
from whether there is a backend. So no caller may pass a flag for the former, and none for the
latter when there is a backend.
-/

namespace BuildAudit

/-- The flags that set the output directory. -/
def outputFlags : List String := ["--output", "-o"]

/-- The flags that set the kind of code that is generated. -/
def codegenFlags : List String := ["--codegen", "-g"]

/-- Whether an argument is one of the flags, alone or with a value after an equals sign. -/
def isFlag (flags : List String) (argument : String) : Bool :=
  flags.any fun flag => argument == flag || (flag ++ "=").toList.isPrefixOf argument.toList

/-- The fault of an argument that is reserved. -/
def reservedFlag? (backend? : Option Backend) (argument : String) : Option BuildFault :=
  if isFlag outputFlags argument then
    some (.reservedFlag argument
      "the output path is set by the `output` setting in the build configuration")
  else
    match backend? with
    | none => none
    | some backend =>
      if isFlag codegenFlags argument then
        some (.reservedFlag argument
          s!"the codegen target is implied by the configured backend `{backend.command}`")
      else none

/-- The arguments as texts, or the failure of the first one that is reserved or no text. -/
def checkArguments (backend? : Option Backend) : List Value → Except Failure (List String)
  | [] => .ok []
  | .string argument :: rest =>
    match reservedFlag? backend? argument with
    | some fault => .error (.fault (.build fault))
    | none => (checkArguments backend? rest).map (argument :: ·)
  | _ :: _ => .error .argumentKind

/-- The arguments that set the output directory. -/
def outputArguments : Option String → List String
  | none => []
  | some output => ["--output", output]

/-- The arguments that make the compiler write code for a backend. -/
def intermediateArguments : List String := ["--codegen", "corefn"]

end BuildAudit
