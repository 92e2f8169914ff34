import BuildAudit.Build.Flags
import BuildAudit.Tools.Basic

/-!
# Build pipelines

A pipeline checks the arguments, compiles, and with a backend compiles once more and runs the
backend. It does so once. A fault of the build at any step leads to the failed stage; a failure of
another sort leaves the pipeline in the stage that it was in.
-/

namespace BuildAudit

/-- How far a pipeline is. -/
inductive Stage where
  /-- It has not run. -/
  | idle
  /-- It checks the arguments for the compiler. -/
  | validatingFlags
  /-- It compiles. -/
  | compiling
  /-- It compiles for the backend. -/
  | compilingIntermediate
  /-- It runs the backend. -/
  | invokingBackend
  /-- It has come to its end. -/
  | succeeded
  /-- It has ended early. -/
  | failed
deriving DecidableEq, Repr

namespace Stage

/-- The name of a stage. -/
def name : Stage → String
  | .idle => "idle"
  | .validatingFlags => "validating_flags"
  | .compiling => "compiling"
  | .compilingIntermediate => "compiling_intermediate"
  | .invokingBackend => "invoking_backend"
  | .succeeded => "succeeded"
  | .failed => "failed"

/-- Whether nothing follows a stage. -/
def isTerminal : Stage → Bool
  | .succeeded | .failed => true
  | _ => false

end Stage

/-- What a pipeline is to build. -/
structure BuildRequest where
  /-- The patterns of the sources. -/
  globs : NameSet
  /-- The caller's arguments for the compiler. -/
  arguments : List Value
  /-- The output directory, if it is not left to the compiler. -/
  output? : Option String
  /-- The backend, if there is one. -/
  backend? : Option Backend

/-- How a build ended. -/
structure BuildResult where
  /-- The stage at the end. -/
  stage : Stage
  /-- What ended the build early. -/
  fault? : Option BuildFault

/-- Whether a build came to its end. -/
def BuildResult.succeeded (result : BuildResult) : Bool :=
  result.stage == .succeeded

/-- A pipeline with what it has been through. -/
structure Pipeline where
  /-- The present stage. -/
  stage : Stage
  /-- All stages so far, the present one last. -/
  history : List Stage
  /-- The result, once there is one. -/
  result? : Option BuildResult

/-- A step of a pipeline: a call of a tool. -/
structure Step where
  /-- The stage in which the call is made. -/
  stage : Stage
  /-- What is logged before the call. -/
  notice : String
  /-- The call. -/
  call : ToolCall

/-- Makes a call that has no result. -/
def Tools.run (tools : Tools) : ToolCall → Action Unit
  | .compile globs arguments => tools.runCompile globs arguments
  | .graph globs arguments => do let _ ← tools.runGraph globs arguments
  | .backend command arguments => tools.runBackend command arguments

/-- The steps that follow the check of the arguments. -/
def BuildRequest.steps (request : BuildRequest) (arguments : List String) : List Step :=
  let output := outputArguments request.output?
  let compilation : Step :=
    { stage := .compiling
      notice := "Building..."
      call := .compile request.globs (arguments ++ output) }
  match request.backend? with
  | none => [compilation]
  | some backend => [
      compilation,
      { stage := .compilingIntermediate
        notice := s!"Compiling corefn for backend {backend.command}..."
        call := .compile request.globs (arguments ++ intermediateArguments ++ output) },
      { stage := .invokingBackend
        notice := s!"Building with backend {backend.command}..."
        call := .backend backend.command (backend.arguments ++ output) }]

namespace Pipeline

/-- A pipeline that has not run. -/
def fresh : Pipeline where
  stage := .idle
  history := [.idle]
  result? := none

/-- The pipeline in its next stage. -/
def moved (pipeline : Pipeline) (stage : Stage) : Pipeline :=
  { pipeline with stage := stage, history := pipeline.history ++ [stage] }

end Pipeline

/-- A pipeline at work in a session. -/
structure Workshop where
  /-- The pipeline. -/
  pipeline : Pipeline
  /-- The session. -/
  session : Session

/-- Changes a pipeline and its session and gives a result or a failure; what changed before a
failure stays. -/
abbrev PipelineAction := ExceptT Failure (StateM Workshop)

namespace PipelineAction

variable {α : Type}

/-- An action of the session. -/
def ofAction (action : Action α) : PipelineAction α := fun workshop =>
  let (result, session) := action workshop.session
  (result, { workshop with session })

/-- The outcome of an action as a result of its own. -/
def outcome (action : PipelineAction α) : PipelineAction (Except Failure α) := fun workshop =>
  let (result, later) := action workshop
  (.ok result, later)

/-- Moves the pipeline to its next stage. -/
def enter (stage : Stage) : PipelineAction Unit := do
  let pipeline := (← get).pipeline
  ofAction (Action.log .debug s!"Pipeline {pipeline.stage.name} -> {stage.name}")
  modify fun workshop => { workshop with pipeline := pipeline.moved stage }

/-- Ends a run with a result. -/
def finish (result : BuildResult) : PipelineAction BuildResult := do
  enter result.stage
  modify fun workshop =>
    { workshop with pipeline := { workshop.pipeline with result? := some result } }
  pure result

/-- Takes a step: enters its stage, logs its notice and makes its call. -/
def takeStep (tools : Tools) (step : Step) : PipelineAction Unit := do
  enter step.stage
  ofAction (Action.log .info step.notice)
  ofAction (tools.run step.call)

/-- Takes steps in turn until one fails. -/
def take (tools : Tools) : List Step → PipelineAction Unit
  | [] => pure ()
  | step :: rest => do
    takeStep tools step
    take tools rest

/-- Checks the arguments of a request and takes its steps. -/
def proceed (tools : Tools) (request : BuildRequest) : PipelineAction Unit := do
  enter .validatingFlags
  let arguments ← ofAction (Action.ofExcept (checkArguments request.backend? request.arguments))
  take tools (request.steps arguments)

/-- Runs the pipeline, which must not have run before. -/
def run (tools : Tools) (request : BuildRequest) : PipelineAction BuildResult := do
  let stage := (← get).pipeline.stage
  if stage = .idle then
    match ← outcome (proceed tools request) with
    | .ok () =>
      ofAction (Action.log .info "Build succeeded.")
      finish { stage := .succeeded, fault? := none }
    | .error (.fault (.build fault)) =>
      ofAction (Action.log .error (Fault.build fault).message)
      finish { stage := .failed, fault? := some fault }
    | .error failure => throw failure
  else throw (.fault (.build (.finished stage.name)))

end PipelineAction

/-- Runs a pipeline of its own for a request. -/
def buildOnce (tools : Tools) (request : BuildRequest) : Action BuildResult := fun session =>
  let (result, workshop) := PipelineAction.run tools request { pipeline := .fresh, session }
  (result, workshop.session)

end BuildAudit
