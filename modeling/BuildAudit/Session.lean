import BuildAudit.Fault
import BuildAudit.FileTree
import BuildAudit.Graph.Basic
import BuildAudit.Log
import BuildAudit.Text.Integer
import BuildAudit.Tools.Call

/-!
# Sessions

A session is the outside world as a build sees it: the files, and everything that has happened so
far, in order. An action goes on from a session to a later one and gives a result or a failure; what
happened before a failure stays.
-/

namespace BuildAudit

/-- Why an action does not come to an end. -/
inductive Failure where
  /-- The program reports a fault. -/
  | fault (fault : Fault)
  /-- An audit needs at least one worker. -/
  | noWorkers
  /-- A value of the named kind is no number of workers. -/
  | workersKind (kind : String)
  /-- A value is no scope of an audit. -/
  | notAScope (value : Value)
  /-- An import has an end that nobody owns. -/
  | unowned (fault : UnownedModule)
  /-- An argument for the compiler is no text. -/
  | argumentKind
  /-- A text goes beyond what can be read. -/
  | excess (excess : Json.Excess)
  /-- A whole number has too many digits to be written. -/
  | longNumber
  /-- A file cannot be read or written. -/
  | file (fault : FileFault)
  /-- A file is not text. -/
  | notText
  /-- The directory that a process is to start in is no directory. -/
  | processDirectory

/-- The message of a failure, if it has one. -/
def Failure.message? : Failure → Option CodeText
  | .fault cause => some cause.message
  | .noWorkers => some "max_workers must be at least 1"
  | .workersKind kind => some (SettingsFault.notNumber kind).message
  | .notAScope value => some s!"Unsupported audit scope: {value.quoted}"
  | .unowned cause => some cause.message
  | .excess (.digits count) => some (Text.tooLongMessage (some count))
  | .longNumber => some (Text.tooLongMessage none)
  | .excess .nesting | .argumentKind | .file _ | .notText | .processDirectory => none

/-- The failure of a part of a configuration without the required form. -/
def Failure.invalid (key : String) (value : Value) (reason : String) (source? : Option String) :
    Failure :=
  if value.isUnwritable then .longNumber
  else .fault (.config (.invalid key value reason source?))

/-- The failure of a configuration that cannot be loaded. -/
def Failure.ofLoad (fault : LoadFault) : Failure :=
  .fault (.load fault)

/-- The failure of a wrong configuration. -/
def Failure.ofConfig (fault : ConfigFault) : Failure :=
  .fault (.config fault)

/-- Something that happens in a session. -/
inductive Event where
  /-- A record is logged. -/
  | logged (record : LogRecord)
  /-- A tool is called. -/
  | called (call : ToolCall)
  /-- A file is written. -/
  | wrote (path : PosixPath)
deriving DecidableEq, Repr

/-- The files with what has happened so far. -/
structure Session where
  /-- The files. -/
  files : FileTree
  /-- What has happened, in order. -/
  events : List Event := []

/-- The record of a logging event. -/
def Event.record? : Event → Option LogRecord
  | .logged record => some record
  | _ => none

/-- The call of a calling event. -/
def Event.call? : Event → Option ToolCall
  | .called call => some call
  | _ => none

/-- The records logged so far. -/
def Session.records (session : Session) : List LogRecord :=
  session.events.filterMap Event.record?

/-- The calls made so far. -/
def Session.calls (session : Session) : List ToolCall :=
  session.events.filterMap Event.call?

/-- Goes on from a session and gives a result or a failure. -/
abbrev Action := ExceptT Failure (StateM Session)

namespace Action

variable {α : Type}

/-- Notes an event. -/
def note (event : Event) : Action Unit :=
  modify fun session => { session with events := session.events ++ [event] }

/-- Logs a record. -/
def log (level : Level) (text : CodeText) : Action Unit :=
  note (.logged { level, text })

/-- Logs records in order. -/
def logAll (records : List LogRecord) : Action Unit :=
  modify fun session => { session with events := session.events ++ records.map .logged }

/-- Ends with a fault. -/
def fail (fault : Fault) : Action α :=
  throw (.fault fault)

/-- The outcome of an action as a result of its own. -/
def outcome (action : Action α) : Action (Except Failure α) :=
  fun session =>
    let (result, later) := action session
    (.ok result, later)

/-- The action that has a known outcome and changes nothing. -/
def ofExcept (result : Except Failure α) : Action α :=
  ExceptT.mk (pure result)

/-- Does actions in order until one fails, and gives all results. -/
def inTurn : List (Action α) → Action (List α)
  | [] => pure []
  | action :: rest => do
    let first ← action
    let others ← inTurn rest
    pure (first :: others)

/-- Does all actions in order, also after one has failed, and gives all results or the first
failure. -/
def all : List (Action α) → Action (List α)
  | [] => pure []
  | action :: rest => do
    let first ← outcome action
    let others ← outcome (all rest)
    match first, others with
    | .error failure, _ => throw failure
    | .ok _, .error failure => throw failure
    | .ok result, .ok results => pure (result :: results)

end Action

end BuildAudit
