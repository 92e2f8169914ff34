import BuildAudit.Graph.Decode
import BuildAudit.OrderedSet
import BuildAudit.Text.Utf8
import BuildAudit.Tools.Basic
import BuildAudit.Tools.Process

/-!
# Tools that run as processes

The compiler and the backend run as processes and block until they end. A process that fails, that
cannot be started or that takes too long is a fault of its tool. A process whose directory is no
directory fails the action as a whole. The patterns of the sources are passed in ascending order.
-/

namespace BuildAudit

/-- How the tools of a build are run. -/
structure Toolchain where
  /-- The command of the compiler. -/
  compiler : String
  /-- Which package owns which source files. -/
  ownership : Ownership
  /-- The time limit of every process, in seconds. -/
  timeout : Value := .null
  /-- The directory that every process starts in. -/
  directory? : Option PosixPath := none

namespace Toolchain

/-- The process of a call. -/
def process (toolchain : Toolchain) (call : ToolCall) : ProcessCall where
  command :=
    match call with
    | .compile globs arguments => toolchain.compiler :: "compile" :: sortNames globs ++ arguments
    | .graph globs arguments => toolchain.compiler :: "graph" :: sortNames globs ++ arguments
    | .backend command arguments => command :: arguments
  directory? := toolchain.directory?
  timeout := toolchain.timeout
  captured :=
    match call with
    | .graph .. => true
    | _ => false

/-- The record of a process that is started. -/
def running (call : ProcessCall) : LogRecord where
  level := .debug
  text := "Running " ++ " ".intercalate call.command

/-- The fault of a compilation. -/
def compileFault (reason : String) (exitCode? : Option Int) (arguments : List String) : Failure :=
  .fault (.build (.compile reason exitCode? arguments))

/-- What the end of a compilation means. -/
def compileAnswer (toolchain : Toolchain) (arguments : List String) :
    ProcessOutcome → Except Failure Unit
  | .exited code _ _ =>
    if code = 0 then .ok ()
    else .error (compileFault "compiler reported errors" (some code) arguments)
  | .notStarted text =>
    .error (compileFault s!"could not run compiler '{toolchain.compiler}': {text}" none arguments)
  | .timedOut =>
    .error (compileFault s!"compiler timed out after {toolchain.timeout.text}s" none arguments)
  | .noDirectory => .error .processDirectory

/-- The fault of a backend. -/
def backendFault (command reason : String) (exitCode? : Option Int) : Failure :=
  .fault (.build (.backend command reason exitCode?))

/-- What the end of a backend's process means. -/
def backendAnswer (toolchain : Toolchain) (command : String) :
    ProcessOutcome → Except Failure Unit
  | .exited code _ _ =>
    if code = 0 then .ok () else .error (backendFault command "exited with a failure" (some code))
  | .notStarted text => .error (backendFault command s!"could not spawn: {text}" none)
  | .timedOut => .error (backendFault command s!"timed out after {toolchain.timeout.text}s" none)
  | .noDirectory => .error .processDirectory

/-- The text of what a process complains about. -/
def complaintText (complaint : List UInt8) : String :=
  String.ofList (Text.trim (Text.Utf8.decodeLenient complaint).toList)

/-- The failure of a call for the import graph. -/
def graphFailure (cause : GraphCause) : Failure :=
  .fault (.graph { cause })

/-- The failure of reading an output. -/
def outputFailure : OutputFault → Failure
  | .cause cause => graphFailure cause
  | .excess excess => .excess excess

/-- What the end of a call for the import graph means, with the records of reading it. -/
def graphReply (toolchain : Toolchain) : ProcessOutcome → Reply ImportGraph
  | .exited code output complaint =>
    if code = 0 then
      match Text.Utf8.decode output with
      | .error fault => { records := [], answer := .error (graphFailure (.notText fault.message)) }
      | .ok text =>
        let (records, graph) := ImportGraph.ofOutput toolchain.ownership text
        { records, answer := graph.mapError outputFailure }
    else
      { records := []
        answer :=
          .error (graphFailure (.exited toolchain.compiler code (complaintText complaint))) }
  | .notStarted text =>
    { records := [], answer := .error (graphFailure (.notRun toolchain.compiler text)) }
  | .timedOut =>
    { records := []
      answer := .error (graphFailure (.timedOut toolchain.compiler toolchain.timeout.text)) }
  | .noDirectory => { records := [], answer := .error .processDirectory }

/-- How the process of a call ends, given the calls made before. -/
def outcomeOf (toolchain : Toolchain) (processes : Processes) (past : List ToolCall)
    (call : ToolCall) : ProcessOutcome :=
  processes (past.map toolchain.process) (toolchain.process call)

/-- The tools that run as processes. -/
def tools (toolchain : Toolchain) (processes : Processes) : Tools where
  compile past globs arguments :=
    { records := [running (toolchain.process (.compile globs arguments))]
      answer :=
        toolchain.compileAnswer arguments
          (toolchain.outcomeOf processes past (.compile globs arguments)) }
  graph past globs arguments :=
    let reply :=
      toolchain.graphReply (toolchain.outcomeOf processes past (.graph globs arguments))
    { reply with records := running (toolchain.process (.graph globs arguments)) :: reply.records }
  backend past command arguments :=
    { records := [running (toolchain.process (.backend command arguments))]
      answer :=
        toolchain.backendAnswer command
          (toolchain.outcomeOf processes past (.backend command arguments)) }

end Toolchain

end BuildAudit
