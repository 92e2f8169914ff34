import BuildAudit.PosixPath
import BuildAudit.Value.Basic

/-!
# Processes

The tools run as processes. How a process ends is given as a function of the processes that ran
before and of the call that starts it.
-/

namespace BuildAudit

/-- The call that starts a process. -/
structure ProcessCall where
  /-- The command with its arguments. -/
  command : List String
  /-- The directory that the process starts in. -/
  directory? : Option PosixPath
  /-- The time limit, in seconds. -/
  timeout : Value
  /-- Whether the output of the process is captured. -/
  captured : Bool

/-- How a process ends. -/
inductive ProcessOutcome where
  /-- It ends with a code and has written octets to its two outputs. -/
  | exited (code : Int) (output complaint : List UInt8)
  /-- It cannot be started, because there is no such command or it may not be run. -/
  | notStarted (text : String)
  /-- The directory that it is to start in is no directory. -/
  | noDirectory
  /-- It takes longer than it may. -/
  | timedOut

/-- The processes that can run. -/
abbrev Processes := List ProcessCall → ProcessCall → ProcessOutcome

/-- What processes write and how they end, in the order of the calls. -/
structure ProcessScript where
  /-- The outcomes of the processes whose output is not captured. -/
  runs : List ProcessOutcome
  /-- The outcomes of the processes whose output is captured. -/
  captures : List ProcessOutcome

namespace ProcessScript

/-- The octets of an empty object. -/
def emptyObject : List UInt8 := [0x7B, 0x7D]

/-- The outcome at an index, the last one beyond the end, and success if there is none. -/
def outcomeAt (outcomes : List ProcessOutcome) (index : Nat) : ProcessOutcome :=
  match outcomes[min index (outcomes.length - 1)]? with
  | some outcome => outcome
  | none => .exited 0 emptyObject []

/-- The processes that follow a script. -/
def processes (script : ProcessScript) : Processes := fun past call =>
  let index := (past.filter (·.captured == call.captured)).length
  outcomeAt (if call.captured then script.captures else script.runs) index

end ProcessScript

end BuildAudit
