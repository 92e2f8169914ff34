import BuildAudit.Json.Reader
import BuildAudit.Text.Utf8
import BuildAudit.Tools.Process

/-!
# Recorded processes

What processes did can be recorded as JSON and played back. A recording is an object with two lists,
`runs` for the processes whose output goes to the user and `graphs` for those whose output is
captured. A process that ended is an object with its exit `code`, its `output` and its `complaint`,
all of which may be left out; any other process is an object with the reason why it did not `end`.
-/

namespace BuildAudit

/-- Reads the octets of a text that may be left out. -/
def octetsOf? (fields : Table Value) (key : String) : Option (List UInt8) :=
  match fields.get? key with
  | none => some []
  | some value => value.asString?.map Text.Utf8.encode

/-- Reads an exit code that may be left out. -/
def exitCodeOf? (fields : Table Value) : Option Int :=
  match fields.get? "code" with
  | none => some 0
  | some (.int code) => some code
  | some _ => none

/-- Reads how a process ended. -/
def ProcessOutcome.ofValue? (value : Value) : Option ProcessOutcome := do
  let fields ← value.asTable?
  match fields.get? "end" with
  | none =>
    some (.exited (← exitCodeOf? fields) (← octetsOf? fields "output")
      (← octetsOf? fields "complaint"))
  | some (.string "not started") =>
    some (.notStarted (((fields.get? "text").bind Value.asString?).getD ""))
  | some (.string "timed out") => some .timedOut
  | some (.string "no directory") => some .noDirectory
  | some _ => none

/-- Reads a list of outcomes that may be left out. -/
def outcomesOf? (fields : Table Value) (key : String) : Option (List ProcessOutcome) := do
  let items ← ((fields.get? key).getD (.list [])).asList?
  items.mapM ProcessOutcome.ofValue?

/-- Reads a recording. -/
def ProcessScript.ofText? (text : String) : Option ProcessScript := do
  let value ← (Json.read text).toOption
  let fields ← (value.mapText CodeText.shown).asTable?
  some { runs := ← outcomesOf? fields "runs", captures := ← outcomesOf? fields "graphs" }

end BuildAudit
